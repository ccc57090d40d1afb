import ApiReconciler.Proofs.Authorizer.Safety

/-!
# `ApiReconciler.Proofs.Authorizer.Recognition` — which authorizers are known again

An authorizer that was created for a key should be found again under that key when the authorizers are
listed the next time. A target without a slash is read back as it was written (`ofAuthorizer?_uri`). No other
target is, whatever it contains: the search for a target runs over the whole URI, so a target with a slash may
make it find a part of the target, or a URI written inside it, but all that it takes for a target ends before
the next slash (`targetIn?_noSlash`).

## Contents
- `targetIn?_noSlash`, `ofAuthorizer?_noSlash`: what the search finds, in any text.
- `created_recognized_iff`: **the keys that survive the gateway**, with the authorizer as it is created.
-/

namespace ApiReconciler

open Program

namespace AuthorizerKey

/-! ## What the search finds -/

theorem targetAt?_noSlash {cs target : List Char} (h : targetAt? cs = some target) : '/' ∉ target := by
  obtain ⟨afterFirst, -, h⟩ := Option.bind_eq_some_iff.mp h
  obtain ⟨afterSecond, -, h⟩ := Option.bind_eq_some_iff.mp h
  obtain ⟨rest, -, h⟩ := Option.bind_eq_some_iff.mp h
  split at h
  · cases h
  · intro hmem
    rw [← Option.some.inj h] at hmem
    simpa using List.mem_takeWhile_imp hmem

/-- Wherever the search stops, it has found a target without a slash. -/
theorem targetIn?_noSlash {cs target : List Char} (h : targetIn? cs = some target) : '/' ∉ target := by
  induction cs with
  | nil => cases h
  | cons c cs ih =>
      rw [targetIn?] at h
      split at h
      · next hfound =>
          rw [Option.some.inj h] at hfound
          exact targetAt?_noSlash hfound
      · exact ih h

/-- **No listed authorizer is taken for one whose target has a slash.** -/
theorem ofAuthorizer?_noSlash {item : Object} {key : AuthorizerKey} (h : ofAuthorizer? item = some key) :
    '/' ∉ key.target.toList := by
  unfold ofAuthorizer? at h
  split at h
  · cases h
  · next target hfound =>
      dsimp only at h
      split at h
      · cases h
      · rw [← Option.some.inj h, String.toList_ofList]
        exact targetIn?_noSlash hfound

end AuthorizerKey

/-! ## The way through the gateway -/

/-- **A key survives the gateway exactly when it can.** The one call that creates the authorizer of a key gives
it a URI and a credential. An authorizer that is listed with both of them, whatever else it is listed with, is
recognized as one of the key just if the target of the key has no slash. -/
theorem created_recognized_iff {σ : Type} (b : Backend σ) (s : σ) (api : String) {region : String}
    {key : AuthorizerKey} (hregion : region ≠ "") (hcolon : ':' ∉ region.toList) (htarget : key.target ≠ "")
    (hcredential : key.credential ≠ "") :
    ∃ spec answer,
      (createAuthorizer api region key).exchanges b s = [.call (.createAuthorizer api spec) answer] ∧
        spec.credentials = key.credential ∧
          ∀ item : Object, item.get? "authorizerUri" = some (.text spec.uri) →
            item.get? "authorizerCredentials" = some (.text key.credential) →
              (AuthorizerKey.ofAuthorizer? item = some key ↔ '/' ∉ key.target.toList) := by
  obtain ⟨answer, hx, -⟩ := trace_createAuthorizer_cases (trace_run b (createAuthorizer api region key) s)
  refine ⟨_, answer, hx, rfl, fun item huri hcredentials => ?_⟩
  constructor
  · exact AuthorizerKey.ofAuthorizer?_noSlash
  · exact fun hslash =>
      AuthorizerKey.ofAuthorizer?_uri hregion hcolon htarget hcredential hslash huri hcredentials

/-- A key whose target has slashes, and the URI of another target behind one of them. -/
def nestedKey : AuthorizerKey :=
  ⟨"x/arn:aws:apigateway:us:lambda:path/2015-03-31/functions/inner", "caller"⟩

/-- The authorizer of a key as the gateway lists it. -/
def listedKey (region : String) (key : AuthorizerKey) : Object :=
  [(.text "id", .text "1"), (.text "authorizerUri", .text (key.uri region)),
    (.text "authorizerCredentials", .text key.credential)]

/-- What is recognized of the nested key is the target inside. -/
example : AuthorizerKey.ofAuthorizer? (listedKey "eu" nestedKey) = some ⟨"inner", "caller"⟩ := by
  decide +kernel

/-- The nested key is lost, and comes back as another one. -/
theorem nestedKey_lost :
    "eu" ≠ "" ∧ ':' ∉ "eu".toList ∧ nestedKey.target ≠ "" ∧ nestedKey.credential ≠ "" ∧
      ∃ spec answer, (createAuthorizer "a" "eu" nestedKey).exchanges (Script.backend true) Script.empty =
          [.call (.createAuthorizer "a" spec) answer] ∧
        (listedKey "eu" nestedKey).get? "authorizerUri" = some (.text spec.uri) ∧
        AuthorizerKey.ofAuthorizer? (listedKey "eu" nestedKey) ≠ some nestedKey := by
  have hregion : "eu" ≠ "" := by decide
  have hcolon : ':' ∉ "eu".toList := by decide
  have htarget : nestedKey.target ≠ "" := by decide
  have hcredential : nestedKey.credential ≠ "" := by decide
  obtain ⟨spec, answer, hx, -, hrecognized⟩ := created_recognized_iff (Script.backend true) Script.empty "a"
    hregion hcolon htarget hcredential
  have hspec : spec.uri = nestedKey.uri "eu" := by
    obtain ⟨hcall, -⟩ := List.cons_eq_cons.mp hx
    injection hcall with hcall
    injection hcall with _ hspec
    rw [← hspec]
  have huri : (listedKey "eu" nestedKey).get? "authorizerUri" = some (.text spec.uri) := by
    rw [hspec]
    rfl
  have hslash : '/' ∈ nestedKey.target.toList := by decide
  exact ⟨hregion, hcolon, htarget, hcredential, spec, answer, hx, huri,
    fun hfound => (hrecognized _ huri rfl).mp hfound hslash⟩

end ApiReconciler
