import ApiReconciler.Deployer
import ApiReconciler.Gateway.Script
import ApiReconciler.Proofs.Checked
import ApiReconciler.Proofs.Gateway.Trace

/-!
# `ApiReconciler.Proofs.Preparation` — how the preparation of a deployer fails

To prepare a deployer is to read its settings and then to open a client, which takes two calls. Its failures
are documented to be faults of the configuration, and those of reading the settings are. Opening a client is
short enough to be written down as a table of the four ways it can go (`Opening`), and the table shows two
failures of another kind: settings with a negative number of attempts, which fail before any call is made,
and a call that is refused. A call that finds no connection is a fault of the configuration.

## Contents
- `Opening`, `trace_openClient`: the ways a client is opened or is not.
- `Settings.read_eq_passed_iff`: the settings that are read from an object.
- `trace_prepare`: the preparation of a deployer, which leaves the settings to `Opening`.
- `Documented`, `preparation_documented_iff`: when the failures are the documented ones.
-/

namespace ApiReconciler

open Program

variable {σ : Type} {st : Settings} {d : Deployer} {e : Environment} {xs : List Exchange}

/-! ## Opening a client -/

/-- The call that opens a session. -/
def Settings.sessionCall (st : Settings) : Call := .openSession st.region (nonempty? st.profile)

/-- The call that opens a client in it. -/
def Settings.clientCall (st : Settings) : Call := .openClient st.clientOptions

/-- The ways to open a client for settings: what is exchanged and how it ends. -/
inductive Opening (st : Settings) : List Exchange → Except Failure Unit → Prop
  | impossible (negative : st.maxAttempts < 0) :
    Opening st [] (.error (.negativeAttempts st.maxAttempts))
  | noSession (possible : 0 ≤ st.maxAttempts) (fault : CallFault) :
    Opening st [.call st.sessionCall (.error fault)]
      (.error (openingFailure Operation.openSession.name fault))
  | noClient (possible : 0 ≤ st.maxAttempts) (session : Object) (fault : CallFault) :
    Opening st [.call st.sessionCall (.ok session), .call st.clientCall (.error fault)]
      (.error (openingFailure Operation.openClient.name fault))
  | opened (possible : 0 ≤ st.maxAttempts) (session client : Object) :
    Opening st [.call st.sessionCall (.ok session), .call st.clientCall (.ok client)] (.ok ())

theorem trace_openingCall {c : Call} {r : Except Failure Unit} :
    (openingCall c).Trace xs r ↔
      (∃ reply, xs = [.call c (.ok reply)] ∧ r = .ok ()) ∨
        ∃ fault, xs = [.call c (.error fault)] ∧ r = .error (openingFailure c.operation.name fault) :=
  trace_call_iff (fun _ => rfl) fun _ => rfl

theorem openClient_of_negative (h : st.maxAttempts < 0) :
    openClient st = .fail (.negativeAttempts st.maxAttempts) := by
  unfold openClient
  rw [if_pos h]

theorem openClient_of_possible (h : 0 ≤ st.maxAttempts) :
    openClient st = (openingCall st.sessionCall).bind fun _ => openingCall st.clientCall := by
  unfold openClient
  rw [if_neg (by omega)]
  rfl

/-- **A client is opened in one of four ways.** -/
theorem trace_openClient {r : Except Failure Unit} : (openClient st).Trace xs r ↔ Opening st xs r := by
  constructor
  · intro h
    by_cases hneg : st.maxAttempts < 0
    · rw [openClient_of_negative hneg] at h
      obtain ⟨rfl, rfl⟩ := h
      exact .impossible hneg
    · have hpos : 0 ≤ st.maxAttempts := by omega
      rw [openClient_of_possible hpos, trace_bind] at h
      rcases h with ⟨_, ys, zs, rfl, hsession, hclient⟩ | ⟨f, rfl, hsession⟩
      · obtain ⟨session, rfl, -⟩ | ⟨_, -, hfailed⟩ := trace_openingCall.mp hsession
        · obtain ⟨client, rfl, rfl⟩ | ⟨fault, rfl, rfl⟩ := trace_openingCall.mp hclient
          · exact .opened hpos session client
          · exact .noClient hpos session fault
        · cases hfailed
      · obtain ⟨_, -, hopened⟩ | ⟨fault, rfl, hfailed⟩ := trace_openingCall.mp hsession
        · cases hopened
        · obtain rfl := Except.error.inj hfailed
          exact .noSession hpos fault
  · intro h
    cases h with
    | impossible hneg =>
        rw [openClient_of_negative hneg]
        exact ⟨rfl, rfl⟩
    | noSession hpos fault =>
        rw [openClient_of_possible hpos, trace_bind]
        exact .inr ⟨_, rfl, trace_openingCall.mpr (.inr ⟨fault, rfl, rfl⟩)⟩
    | noClient hpos session fault =>
        rw [openClient_of_possible hpos, trace_bind]
        exact .inl ⟨(), [_], [_], rfl, trace_openingCall.mpr (.inl ⟨session, rfl, rfl⟩),
          trace_openingCall.mpr (.inr ⟨fault, rfl, rfl⟩)⟩
    | opened hpos session client =>
        rw [openClient_of_possible hpos, trace_bind]
        exact .inl ⟨(), [_], [_], rfl, trace_openingCall.mpr (.inl ⟨session, rfl, rfl⟩),
          trace_openingCall.mpr (.inl ⟨client, rfl, rfl⟩)⟩

/-- Nothing but a client is opened. -/
theorem openClient_asks (st : Settings) :
    (openClient st).Asks fun q => q = .call st.sessionCall ∨ q = .call st.clientCall := by
  by_cases hneg : st.maxAttempts < 0
  · rw [openClient_of_negative hneg]
    trivial
  · rw [openClient_of_possible (by omega)]
    refine asks_bind ⟨.inl rfl, fun a => ?_⟩ fun _ => ⟨.inr rfl, fun a => ?_⟩
    · cases a <;> trivial
    · cases a <;> trivial

/-! ## Settings that are read -/

namespace Settings

variable {ms : Object}

/-- The fields of settings are what is read from an object. -/
structure ReadFrom (ms : Object) (st : Settings) : Prop where
  region : Checked.required ms "region" Checked.text = .passed st.region
  stage : Checked.optional ms "stage" defaultStage Checked.text = .passed st.stage
  accessKey : Checked.optional ms "access_key" none Checked.optionalText = .passed st.accessKey
  secretKey : Checked.optional ms "secret_key" none Checked.optionalText = .passed st.secretKey
  profile : Checked.optional ms "profile_name" none Checked.optionalText = .passed st.profile
  connectTimeout : Checked.optional ms "connect_timeout" 10 Checked.integer = .passed st.connectTimeout
  readTimeout : Checked.optional ms "read_timeout" 60 Checked.integer = .passed st.readTimeout
  maxAttempts : Checked.optional ms "max_attempts" 3 Checked.integer = .passed st.maxAttempts

theorem read_eq_passed_iff : Settings.read ms = .passed st ↔ st.ReadFrom ms := by
  constructor
  · intro h
    -- the fields are taken off one by one, the last one first
    obtain ⟨_, _, h₇, hattempts, rfl⟩ := Checked.seq_eq_passed h
    obtain ⟨_, _, h₆, hread, rfl⟩ := Checked.seq_eq_passed h₇
    obtain ⟨_, _, h₅, hconnect, rfl⟩ := Checked.seq_eq_passed h₆
    obtain ⟨_, _, h₄, hprofile, rfl⟩ := Checked.seq_eq_passed h₅
    obtain ⟨_, _, h₃, hsecret, rfl⟩ := Checked.seq_eq_passed h₄
    obtain ⟨_, _, h₂, haccess, rfl⟩ := Checked.seq_eq_passed h₃
    obtain ⟨_, _, h₁, hstage, rfl⟩ := Checked.seq_eq_passed h₂
    obtain ⟨_, hregion, rfl⟩ := Checked.map_eq_passed h₁
    exact ⟨hregion, hstage, haccess, hsecret, hprofile, hconnect, hread, hattempts⟩
  · intro h
    rw [Settings.read, h.region, h.stage, h.accessKey, h.secretKey, h.profile, h.connectTimeout, h.readTimeout,
      h.maxAttempts]
    rfl

end Settings

/-! ## Preparing a deployer -/

/-- Settings that are not read are a fault of the configuration. -/
theorem settingsOf_eq_error {f : Failure} (h : Deployer.settingsOf e = .error f) :
    ∃ issues, f = .configuration (.invalidProperties issues) := by
  cases e with
  | settings s => cases h
  | properties ms =>
      cases hread : Settings.ofProperties ms with
      | passed s =>
          rw [Deployer.settingsOf, hread] at h
          cases h
      | failed issues =>
          rw [Deployer.settingsOf, hread] at h
          exact ⟨issues, (Except.error.inj h).symm⟩

/-- The number of attempts is no property: settings from properties have the usual one. -/
theorem maxAttempts_ofProperties {ms : Object} (h : Deployer.settingsOf (.properties ms) = .ok st) :
    st.maxAttempts = 3 := by
  cases hread : Settings.ofProperties ms with
  | failed issues =>
      rw [Deployer.settingsOf, hread] at h
      cases h
  | passed s =>
      rw [Deployer.settingsOf, hread] at h
      obtain rfl := Except.ok.inj h
      have hattempts := (Settings.read_eq_passed_iff.mp hread).maxAttempts
      exact (Checked.passed.inj hattempts).symm

/-- A deployer is prepared as a client is opened for its settings, if they are read. -/
theorem trace_prepare {r : Except Failure Deployer} :
    (d.prepare e .opened).Trace xs r ↔
      (∃ f, Deployer.settingsOf e = .error f ∧ xs = [] ∧ r = .error f) ∨
        ∃ st m, Deployer.settingsOf e = .ok st ∧ Opening st xs m ∧
          r = m.map fun _ => { d with connection := some ⟨st, .opened⟩ } := by
  unfold Deployer.prepare
  cases hread : Deployer.settingsOf e with
  | error f => simp
  | ok st =>
      have hrest : (((openClient st).bind fun _ =>
            .done { d with connection := some ⟨st, .opened⟩ }).Trace xs r) ↔
          ∃ m, Opening st xs m ∧ r = m.map fun _ => { d with connection := some ⟨st, .opened⟩ } := by
        rw [trace_bind]
        constructor
        · rintro (⟨_, ys, zs, rfl, hopen, rfl, rfl⟩ | ⟨f, rfl, hopen⟩)
          · rw [List.append_nil]
            exact ⟨_, trace_openClient.mp hopen, rfl⟩
          · exact ⟨_, trace_openClient.mp hopen, rfl⟩
        · rintro ⟨m, hopening, rfl⟩
          cases m with
          | ok u => exact .inl ⟨u, xs, [], (List.append_nil xs).symm, trace_openClient.mpr hopening, rfl, rfl⟩
          | error f => exact .inr ⟨f, rfl, trace_openClient.mpr hopening⟩
      simpa using hrest

/-! ## The documented failures -/

/-- The end of a preparation is a documented one: if it fails, it is with a fault of the configuration. -/
def Documented {α : Type} (r : Except Failure α) : Prop :=
  ∀ f, r = .error f → ∃ fault, f = .configuration fault

/-- The gateway refused the call. -/
def Exchange.Refused : Exchange → Prop
  | .call _ (.error (.refused _)) => True
  | _ => False

theorem documented_ok {α : Type} (a : α) : Documented (.ok a : Except Failure α) :=
  fun _ h => by cases h

theorem documented_error {α : Type} {f : Failure} :
    Documented (.error f : Except Failure α) ↔ ∃ fault, f = .configuration fault := by
  constructor
  · intro h
    exact h f rfl
  · rintro hf _ he
    obtain rfl := Except.error.inj he
    exact hf

theorem documented_map {α β : Type} {g : α → β} {r : Except Failure α} :
    Documented (r.map g) ↔ Documented r := by
  cases r with
  | ok a => exact iff_of_true (documented_ok _) (documented_ok _)
  | error f => exact documented_error.trans documented_error.symm

/-- A fault met while opening is one of the configuration unless it is a refusal. -/
theorem documented_openingFailure {α : Type} {c : Call} {operation : String} {fault : CallFault} :
    Documented (.error (openingFailure operation fault) : Except Failure α) ↔
      ¬(Exchange.call c (.error fault)).Refused := by
  rw [documented_error]
  cases fault with
  | disconnected text => exact iff_of_true ⟨_, rfl⟩ (fun h => h)
  | refused error =>
      refine iff_of_false ?_ (fun h => h trivial)
      rintro ⟨fault, h⟩
      cases h

/-- **A client is opened as documented** when the number of attempts is possible and no call is refused. -/
theorem Opening.documented_iff {r : Except Failure Unit} (h : Opening st xs r) :
    Documented r ↔ 0 ≤ st.maxAttempts ∧ ∀ x ∈ xs, ¬x.Refused := by
  cases h with
  | impossible hneg =>
      refine iff_of_false ?_ (fun h => absurd h.1 (by omega))
      rw [documented_error]
      rintro ⟨fault, h⟩
      cases h
  | noSession hpos fault =>
      rw [documented_openingFailure (c := st.sessionCall), List.forall_mem_singleton]
      exact (and_iff_right hpos).symm
  | noClient hpos session fault =>
      rw [documented_openingFailure (c := st.clientCall), List.forall_mem_cons, List.forall_mem_singleton]
      have hsession : ¬(Exchange.call st.sessionCall (.ok session)).Refused := fun h => h
      rw [and_iff_right hsession, and_iff_right hpos]
  | opened hpos session client =>
      refine iff_of_true (documented_ok ()) ⟨hpos, ?_⟩
      exact List.forall_mem_cons.mpr ⟨fun h => h, List.forall_mem_singleton.mpr fun h => h⟩

/-- What is left when the end is no documented one. -/
theorem Opening.undocumented {f : Failure} (h : Opening st xs (.error f)) (hf : ∀ fault, f ≠ .configuration fault) :
    (st.maxAttempts < 0 ∧ xs = [] ∧ f = .negativeAttempts st.maxAttempts) ∨
      ∃ c error, .call c (.error (.refused error)) ∈ xs ∧ f = .clientRefused c.operation.name error := by
  cases h with
  | impossible hneg => exact .inl ⟨hneg, rfl, rfl⟩
  | noSession hpos fault =>
      cases fault with
      | disconnected text => exact absurd rfl (hf _)
      | refused error => exact .inr ⟨st.sessionCall, error, List.mem_cons_self, rfl⟩
  | noClient hpos session fault =>
      cases fault with
      | disconnected text => exact absurd rfl (hf _)
      | refused error => exact .inr ⟨st.clientCall, error, List.mem_cons_of_mem _ List.mem_cons_self, rfl⟩

theorem trace_prepare_documented {r : Except Failure Deployer} (h : (d.prepare e .opened).Trace xs r) :
    Documented r ↔
      (∀ st, Deployer.settingsOf e = .ok st → 0 ≤ st.maxAttempts) ∧ ∀ x ∈ xs, ¬x.Refused := by
  obtain ⟨f, hread, rfl, rfl⟩ | ⟨st, m, hread, hopening, rfl⟩ := trace_prepare.mp h
  · obtain ⟨issues, rfl⟩ := settingsOf_eq_error hread
    refine iff_of_true (documented_error.mpr ⟨_, rfl⟩) ⟨fun st hst => ?_, fun x hx => by cases hx⟩
    rw [hread] at hst
    cases hst
  · rw [documented_map, hopening.documented_iff, hread]
    refine and_congr_left fun _ => ?_
    constructor
    · intro hpos _ hst
      obtain rfl := Except.ok.inj hst
      exact hpos
    · intro hpos
      exact hpos st rfl

theorem trace_prepare_undocumented {f : Failure} (h : (d.prepare e .opened).Trace xs (.error f))
    (hf : ∀ fault, f ≠ .configuration fault) :
    (∃ st, Deployer.settingsOf e = .ok st ∧ st.maxAttempts < 0 ∧ xs = [] ∧
        f = .negativeAttempts st.maxAttempts) ∨
      ∃ c error, .call c (.error (.refused error)) ∈ xs ∧ f = .clientRefused c.operation.name error := by
  obtain ⟨f', hread, -, he⟩ | ⟨st, m, hread, hopening, he⟩ := trace_prepare.mp h
  · obtain rfl := Except.error.inj he
    obtain ⟨issues, rfl⟩ := settingsOf_eq_error hread
    exact absurd rfl (hf _)
  · cases m with
    | ok u => cases he
    | error f' =>
        obtain rfl := Except.error.inj he
        exact (hopening.undocumented hf).imp_left fun hneg => ⟨st, hread, hneg⟩

/-- **When preparations fail as documented.** A client, and a deployer with a client of its own, is there or
fails with a fault of the configuration exactly when the settings do not ask for a negative number of attempts
and no call that opens the client is refused. Settings that a host gives as properties never ask for a negative
number. Whatever else a preparation fails with is one of the two: the negative number, before any call, or the
refusal. -/
theorem preparation_documented_iff (b : Backend σ) (s : σ) (d : Deployer) :
    (∀ st, Documented ((openClient st).run b s).result ↔
      0 ≤ st.maxAttempts ∧ ∀ x ∈ (openClient st).exchanges b s, ¬x.Refused) ∧
    (∀ e, Documented ((d.prepare e .opened).run b s).result ↔
      (∀ st, Deployer.settingsOf e = .ok st → 0 ≤ st.maxAttempts) ∧
        ∀ x ∈ (d.prepare e .opened).exchanges b s, ¬x.Refused) ∧
    (∀ ms, Documented ((d.prepare (.properties ms) .opened).run b s).result ↔
      ∀ x ∈ (d.prepare (.properties ms) .opened).exchanges b s, ¬x.Refused) ∧
    ∀ e f, ((d.prepare e .opened).run b s).result = .error f → (∀ fault, f ≠ .configuration fault) →
      (∃ st, Deployer.settingsOf e = .ok st ∧ st.maxAttempts < 0 ∧
          (d.prepare e .opened).exchanges b s = [] ∧ f = .negativeAttempts st.maxAttempts) ∨
        ∃ c error, .call c (.error (.refused error)) ∈ (d.prepare e .opened).exchanges b s ∧
          f = .clientRefused c.operation.name error := by
  refine ⟨fun st => ?_, fun e => ?_, fun ms => ?_, fun e f hfailed hf => ?_⟩
  · exact (trace_openClient.mp (trace_run b (openClient st) s)).documented_iff
  · exact trace_prepare_documented (trace_run b (d.prepare e .opened) s)
  · rw [trace_prepare_documented (trace_run b (d.prepare (.properties ms) .opened) s)]
    refine and_iff_right fun st hst => ?_
    rw [maxAttempts_ofProperties hst]
    decide
  · have htrace := trace_run b (d.prepare e .opened) s
    rw [hfailed] at htrace
    exact trace_prepare_undocumented htrace hf

/-- Settings with a negative number of attempts. -/
def impatientSettings : Settings := ⟨"eu", "live", none, none, none, 10, 60, -1⟩

/-- Prepared for these settings, a deployer fails before any call, and with no fault of the configuration. -/
theorem impatientSettings_undocumented :
    let p := (Deployer.new .aws).prepare (.settings impatientSettings) .opened
    p.exchanges (Script.backend true) Script.empty = [] ∧
      (p.run (Script.backend true) Script.empty).result = .error (.negativeAttempts (-1)) ∧
        ¬Documented (p.run (Script.backend true) Script.empty).result := by
  refine ⟨rfl, rfl, ?_⟩
  intro h
  obtain ⟨fault, hfault⟩ := h (.negativeAttempts (-1)) rfl
  cases hfault

end ApiReconciler
