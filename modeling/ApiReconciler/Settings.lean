import ApiReconciler.Validation.Lenient

/-!
# `ApiReconciler.Settings` — connection settings

The settings of one gateway environment: where to connect, as whom, to which stage deployments are
bound, and how patiently to call.

## Contents
- `Settings`, its reader `Settings.read`, and its written form `Settings.dump`.
- `Settings.ofProperties`: settings from a host's map of properties.
-/

namespace ApiReconciler

/-- The settings of one gateway environment. Timeouts are in seconds, and `maxAttempts` counts
every attempt of a call. -/
structure Settings where
  region : String
  stage : String
  accessKey : Option String
  secretKey : Option String
  profile : Option String
  connectTimeout : Int
  readTimeout : Int
  maxAttempts : Int
deriving DecidableEq, Repr

namespace Settings

/-- The stage of settings that name none. -/
def defaultStage : String := "default"

/-- Reads settings; only the region has to be given. -/
def read (ms : Object) : Checked Settings :=
  Settings.mk <$> Checked.required ms "region" Checked.text
    <*> Checked.optional ms "stage" defaultStage Checked.text
    <*> Checked.optional ms "access_key" none Checked.optionalText
    <*> Checked.optional ms "secret_key" none Checked.optionalText
    <*> Checked.optional ms "profile_name" none Checked.optionalText
    <*> Checked.optional ms "connect_timeout" 10 Checked.integer
    <*> Checked.optional ms "read_timeout" 60 Checked.integer
    <*> Checked.optional ms "max_attempts" 3 Checked.integer

/-- A property, null when it is absent. -/
def property (ms : Object) (name : String) : Value := (ms.get? name).getD .null

/-- Settings from a host's properties, of which five are known. A stage that is empty or otherwise
counts as not given is the default one. -/
def ofProperties (ms : Object) : Checked Settings :=
  let stage := property ms "stage"
  read
    [(.text "region", property ms "region"),
      (.text "stage", if stage.isTruthy then stage else .text defaultStage),
      (.text "access_key", property ms "access_key"),
      (.text "secret_key", property ms "secret_key"),
      (.text "profile_name", property ms "profile_name")]

/-- The settings as an object with all eight members. -/
def dump (s : Settings) : Value :=
  Value.record
    [("region", .text s.region), ("stage", .text s.stage),
      ("access_key", Value.optionalText s.accessKey),
      ("secret_key", Value.optionalText s.secretKey),
      ("profile_name", Value.optionalText s.profile),
      ("connect_timeout", .int s.connectTimeout), ("read_timeout", .int s.readTimeout),
      ("max_attempts", .int s.maxAttempts)]

end Settings

end ApiReconciler
