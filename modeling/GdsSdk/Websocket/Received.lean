import GdsSdk.Messages.AnnouncedData
import GdsSdk.Websocket.SingleUse

/-!
# Dispatching received messages

`OnMessageReceived` dispatches on the data part of the message that it has decoded.  Its catch
clause covers what the decoder throws, but not the null reference that a message without data part
leads to.  `OnMessageReceived.dispatches_iff` says that this is the only way in which a received
binary can make the dispatch fail.
-/

namespace Gds

open MsgPack

namespace OnMessageReceived

/-- Whatever message is decoded from the bytes carries data of the type that its header announces,
and `OnMessageReceived` decodes it and dispatches on it without an exception. -/
def Dispatches (cfg : Config) (binary : List UInt8) : Prop :=
  MessageManager.CarriesAnnounced cfg.wire binary ∧
    ∀ i sh sh' pc', onMessageReceived cfg i sh (.decode binary) = some (sh', pc') →
      ∀ e, sh'.log ≠ .threw i e :: sh.log

/-- Where every decoded message has a data part, the dispatch does not throw. -/
lemma not_threw_of_carriesAnnounced {cfg : Config} {binary : List UInt8} {i : ℕ}
    {sh sh' : Shared} {pc' : Pc} (hcarries : MessageManager.CarriesAnnounced cfg.wire binary)
    (h : onMessageReceived cfg i sh (.decode binary) = some (sh', pc')) (e : ClientException) :
    sh'.log ≠ .threw i e :: sh.log := by
  cases hdecode : MessageManager.getMessageFromBinary cfg.wire binary with
  | error cause =>
    simp only [onMessageReceived, hdecode] at h
    cases h
    exact (List.cons_ne_self _ _).symm
  | ok m =>
    obtain ⟨d, hd, -⟩ := hcarries m hdecode
    obtain ⟨header, data⟩ := m
    cases hd
    simp only [onMessageReceived, hdecode] at h
    cases d with
    | connectionAck ackData =>
      cases h
      simp
    | _ =>
      cases h
      exact (List.cons_ne_self _ _).symm

/-- A received binary can be dispatched on unless nil stands in the place of the data part for a
type whose decoder lets that pass. -/
theorem dispatches_iff (cfg : Config) (binary : List UInt8) :
    Dispatches cfg binary ↔ ¬ MessageManager.NilData cfg.wire binary := by
  rw [← MessageManager.carriesAnnounced_iff]
  constructor
  · rintro ⟨hcarries, -⟩
    exact hcarries
  · intro hcarries
    exact ⟨hcarries, fun i sh sh' pc' h => not_threw_of_carriesAnnounced hcarries h⟩

end OnMessageReceived

open Scenario in
/-- An acknowledgement of a login whose data part is nil: the null reference leaves the
callback. -/
theorem OnMessageReceived.not_dispatches_nil :
    ¬ Dispatches cfg [155, 161, 117, 192, 5, 249, 194, 192, 192, 192, 192, 1, 192] := by
  rintro ⟨-, hdispatch⟩
  exact hdispatch 0 Shared.init _ _ rfl .nullReference rfl

end Gds
