import Mathlib.Tactic.Common

/-!
# Connection states

The eight values of the `State` property.  `stage` orders them by the progress of a client: the
two states in which a client has come to its end share the last stage.
-/

namespace Gds

/-- The value of the `State` property. -/
inductive ConnectionState where
  /-- `Connect()` was not called yet. -/
  | notConnected
  /-- `Connect()` was called, the channels are being created. -/
  | initializing
  /-- Trying to establish the connection. -/
  | connecting
  /-- The connection is established. -/
  | connected
  /-- The login message was sent. -/
  | loggingIn
  /-- The login was successful. -/
  | loggedIn
  /-- The connection was closed after a successful login. -/
  | disconnected
  /-- An error happened during the initialization of the client. -/
  | failed
  deriving DecidableEq

namespace ConnectionState

/-- The text of a state in an error message. -/
def asText : ConnectionState → String
  | notConnected => "NOT_CONNECTED"
  | initializing => "INITIALIZING"
  | connecting => "CONNECTING"
  | connected => "CONNECTED"
  | loggingIn => "LOGGING_IN"
  | loggedIn => "LOGGED_IN"
  | disconnected => "DISCONNECTED"
  | failed => "FAILED"

/-- The two states in which a client has come to its end. -/
def Terminal (s : ConnectionState) : Prop := s = disconnected ∨ s = failed

instance : DecidablePred Terminal := fun _ => inferInstanceAs (Decidable (_ ∨ _))

/-- How far a client has come. -/
def stage : ConnectionState → ℕ
  | notConnected => 0
  | initializing => 1
  | connecting => 2
  | connected => 3
  | loggingIn => 4
  | loggedIn => 5
  | disconnected | failed => 6

lemma stage_le (s : ConnectionState) : s.stage ≤ 6 := by
  cases s <;> simp [stage]

lemma terminal_iff_stage {s : ConnectionState} : s.Terminal ↔ s.stage = 6 := by
  cases s <;> simp [Terminal, stage]

/-- From the fifth stage on a client is logged in or has come to its end. -/
lemma five_le_stage_iff {s : ConnectionState} : 5 ≤ s.stage ↔ s = loggedIn ∨ s.Terminal := by
  cases s <;> simp [Terminal, stage]

/-- Before the end the stage determines the state. -/
lemma eq_of_stage_eq {s t : ConnectionState} (h : s.stage = t.stage) (ht : ¬ t.Terminal) :
    s = t := by
  cases s <;> cases t <;> simp_all [Terminal, stage]

end ConnectionState

end Gds
