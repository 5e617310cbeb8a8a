import GdsSdk.Transition.History
import GdsSdk.Websocket.SingleUse

/-!
# What is handed to the socket

Besides the login message a client hands over only the binaries of `SendMessage`.  In every run
each of them comes after the login message and after an acknowledgement that was accepted, and is
the encoding of a header that announces its data part; a call of `SendMessage` that ends with an
exception hands over nothing.
-/

namespace Gds

open Transition AsyncGDSClient

/-- The value that an event stores in `State`. -/
def Event.stored : Event → Option ConnectionState
  | state value => some value
  | _ => none

/-- The value of `State` according to a history. -/
def stateAfter (log : List Event) : ConnectionState :=
  (log.findSome? Event.stored).getD .notConnected

/-- The binary is the encoding of a header and a data part of the type that it announces. -/
def IsMessage (cfg : Config) (binary : List UInt8) : Prop :=
  ∃ header data, data.getDataType = header.dataType ∧
    MessageManager.getBinaryFromMessage cfg.wire
      (MessageManager.getMessage header (some data)) = .ok binary

/-- The conditions under which the client sends and accepts, given the events before. -/
inductive Permitted (cfg : Config) : Event → List Event → Prop
  /-- A message is sent after an acceptance and after the login message. -/
  | sent {i : ℕ} {binary : List UInt8} {older : List Event}
    (haccepted : older.any Event.isAcceptedOk = true)
    (hlogin : older.any Event.isLoginMessage = true) (hmessage : IsMessage cfg binary) :
    Permitted cfg (.sent i binary) older
  /-- An acknowledgement with status OK is accepted in `LOGGING_IN`, which turns into
  `LOGGED_IN`. -/
  | accepted {header : MessageHeader} {ackData : ConnectionAckData} {older : List Event}
    (hstatus : ackData.status = .ok) (hstate : stateAfter older = .loggingIn) :
    Permitted cfg (.accepted header ackData) (.state .loggedIn :: older)
  | other {e : Event} {older : List Event} (hsent : ∀ i binary, e ≠ .sent i binary)
    (haccepted : ∀ header ackData, e ≠ .accepted header ackData) : Permitted cfg e older

/-- The thread of a send that an event ends. -/
def Event.ended : Event → Option ℕ
  | sent i _ | threw i _ => some i
  | _ => none

/-- The history of the sends of a client. -/
structure SendHistory (cfg : Config) (s : Client) : Prop where
  /-- `State` is the value that was stored last. -/
  state : stateAfter s.shared.log = s.shared.state
  /-- Every send and every acceptance was permitted. -/
  lawful : Lawful (Permitted cfg) s.shared.log
  /-- A thread that has sent or thrown does nothing more. -/
  ended : ∀ e ∈ s.shared.log, ∀ i, e.ended = some i → s.threads[i]? = some .done
  /-- A call that threw has sent nothing. -/
  apart : ∀ i e binary, .threw i e ∈ s.shared.log → .sent i binary ∉ s.shared.log

namespace Move

variable {cfg : Config} {i : ℕ} {sh sh' : Shared} {pc pc' : Pc}

/-- A move stores what it makes of `State`. -/
lemma stateAfter_eq (h : Move cfg i sh pc sh' pc') (hs : stateAfter sh.log = sh.state) :
    stateAfter sh'.log = sh'.state := by
  unfold stateAfter at hs ⊢
  cases h <;> simp [List.findSome?_cons, Event.stored, hs]

/-- A move only sends and accepts what is permitted. -/
lemma lawful (h : Move cfg i sh pc sh' pc') (hI : Lifecycle sh) (hpc : Knows cfg sh pc)
    (hstate : stateAfter sh.log = sh.state) (hlog : Lawful (Permitted cfg) sh.log) :
    Lawful (Permitted cfg) sh'.log := by
  cases h with
  | sends header data binary htype hbinary =>
    have hentered := hpc.allowed _ _ rfl
    exact ⟨.sent (hI.accepted hentered) (hI.login hentered) ⟨header, data, htype, hbinary⟩, hlog⟩
  | accepts header ackData hstatus h =>
    exact ⟨.accepted hstatus (hstate.trans h), .other (by simp) (by simp), hlog⟩
  | timeoutReported => exact ⟨.other (by simp) (by simp), .other (by simp) (by simp), hlog⟩
  | _ => first
    | exact hlog
    | exact ⟨.other (by simp) (by simp), hlog⟩

/-- A move adds no event that ends a send, or just one, after which its thread is done. -/
lemma ended (h : Move cfg i sh pc sh' pc') :
    (∃ new, sh'.log = new ++ sh.log ∧ ∀ e ∈ new, e.ended = none) ∨
      ∃ e, e.ended = some i ∧ sh'.log = e :: sh.log ∧ pc' = .done := by
  cases h with
  | connectThrows | openedThrows | loginThrows | loggingInThrows | receivedThrows | signalThrows
  | ackThrows | sendRejected | sendThrows | sends => exact .inr ⟨_, rfl, rfl, rfl⟩
  | _ => first
    | exact .inl ⟨[], rfl, by simp⟩
    | exact .inl ⟨[_], rfl, by simp [Event.ended]⟩
    | exact .inl ⟨[_, _], rfl, by simp [Event.ended]⟩

end Move

namespace AsyncGDSClient

variable {cfg : Config} {ok : Guard Client Label} {s s' : Client} {l : Label}

/-- A move continues the history of the sends. -/
lemma sendHistory_move {i : ℕ} {pc pc' : Pc} {sh' : Shared}
    (hlife : s.Annotated Lifecycle (Knows cfg)) (h : SendHistory cfg s)
    (hpc : s.threads[i]? = some pc) (hm : Move cfg i s.shared pc sh' pc') :
    SendHistory cfg ⟨sh', s.threads.set i pc'⟩ := by
  -- threads that are done have other numbers than the one that moves
  have hne : ∀ j, s.threads[j]? = some .done → j ≠ i := by
    rintro j hj rfl
    rw [hpc] at hj
    cases hj
    cases hm
  have hold : ∀ e ∈ s.shared.log, ∀ j, e.ended = some j →
      (s.threads.set i pc')[j]? = some .done := by
    intro e he j hj
    have hdone := h.ended e he j hj
    rwa [List.getElem?_set_ne (hne j hdone).symm]
  refine ⟨hm.stateAfter_eq h.state, hm.lawful hlife.shared (hlife.at hpc) h.state h.lawful, ?_, ?_⟩
  · intro e he j hj
    rcases hm.ended with ⟨new, hlog, hnew⟩ | ⟨e', he', hlog, rfl⟩
    · rw [hlog, List.mem_append] at he
      rcases he with he | he
      · rw [hnew e he] at hj
        cases hj
      · exact hold e he j hj
    · rw [hlog, List.mem_cons] at he
      rcases he with rfl | he
      · rw [he'] at hj
        cases hj
        exact Pool.at_set hpc
      · exact hold e he j hj
  · intro j e binary hthrew hsent
    rcases hm.ended with ⟨new, hlog, hnew⟩ | ⟨e', he', hlog, rfl⟩
    · rw [hlog, List.mem_append] at hthrew hsent
      rcases hthrew with hthrew | hthrew
      · cases hnew _ hthrew
      rcases hsent with hsent | hsent
      · cases hnew _ hsent
      · exact h.apart j e binary hthrew hsent
    · rw [hlog, List.mem_cons] at hthrew hsent
      rcases hthrew with rfl | hthrew <;> rcases hsent with hsent | hsent
      · cases hsent
      · cases he'
        exact hne i (h.ended _ hsent i rfl) rfl
      · subst hsent
        cases he'
        exact hne i (h.ended _ hthrew i rfl) rfl
      · exact h.apart j e binary hthrew hsent

/-- The history of the sends in every run. -/
theorem sendHistory (h : (system cfg).Reachable ok s) : SendHistory cfg s := by
  refine h.invariant_of (J := fun s => s.Annotated Lifecycle (Knows cfg)) (I := SendHistory cfg)
    (fun s hs => lifecycle hs) ?_ ?_
  · constructor <;> simp [system, Shared.init, stateAfter]
  intro s l s' hlife hs _ hstep
  rcases step_cases hstep with ⟨c, -, rfl⟩ | ⟨e, -, -, rfl⟩ | ⟨i, pc, sh', pc', -, hpc, hm, rfl⟩
  · exact ⟨hs.state, hs.lawful, fun e he j hj => Pool.at_spawn (hs.ended e he j hj), hs.apart⟩
  · exact ⟨hs.state, hs.lawful, fun e he j hj => Pool.at_spawn (hs.ended e he j hj), hs.apart⟩
  · exact sendHistory_move hlife hs hpc hm

/-- In every run, whatever threads send whatever headers and data: a binary that the client hands
to the socket besides its login message comes after an acknowledgement with status OK was
accepted in `LOGGING_IN` and after the login message, and is the encoding of a header and a data
part of one type; and a call that ends with an exception has handed over nothing. -/
theorem sent_after_login (h : (system cfg).Reachable Unrestricted s) :
    (∀ newer i binary older, s.shared.log = newer ++ .sent i binary :: older →
      (∃ between header ackData before,
        older = between ++ .accepted header ackData :: .state .loggedIn :: before ∧
        ackData.status = .ok ∧ stateAfter before = .loggingIn) ∧
      (∃ binary', .login binary' ∈ older) ∧ IsMessage cfg binary) ∧
    ∀ i e, .threw i e ∈ s.shared.log → ∀ binary, .sent i binary ∉ s.shared.log := by
  have hs := sendHistory h
  have hlawful := lawful_iff.mp hs.lawful
  refine ⟨fun newer i binary older heq => ?_, fun i e hthrew binary => hs.apart i e binary hthrew⟩
  cases hlawful newer _ older heq with
  | other hsent => exact absurd rfl (hsent i binary)
  | sent haccepted hlogin hmessage =>
    refine ⟨?_, ?_, hmessage⟩
    · -- the acceptance in the history was itself permitted
      obtain ⟨e, he, hok⟩ := List.any_eq_true.mp haccepted
      obtain ⟨between, rest, rfl⟩ := List.append_of_mem he
      cases hlawful (newer ++ .sent i binary :: between) e rest (by simp [heq]) with
      | sent => cases hok
      | accepted hstatus hstate => exact ⟨between, _, _, _, rfl, hstatus, hstate⟩
      | other _ haccepted' =>
        cases e with
        | accepted header ackData => exact absurd rfl (haccepted' header ackData)
        | _ => cases hok
    · obtain ⟨e, he, hlogin⟩ := List.any_eq_true.mp hlogin
      cases e with
      | login binary' => exact ⟨binary', he⟩
      | _ => cases hlogin

end AsyncGDSClient

open Scenario in
/-- A client that has sent a request after its login. -/
theorem AsyncGDSClient.sent_after_login_request : ∃ s i binary older,
    (system cfg).Reachable Unrestricted s ∧
    s.shared.log = .sent i binary :: older ∧ (∃ binary', .login binary' ∈ older) ∧
    IsMessage cfg binary := by
  have hrequest : ∃ s, (system cfg).Reachable Unrestricted s ∧
      (s.shared.log.head?.any fun e => match e with
        | .sent _ _ => true
        | _ => false) = true :=
    System.exists_reachable (login ++ [.call (.send (.attachmentRequest4 (some "SELECT")
      ⟨none, none⟩) stamp)] ++ steps 2 3) (by decide +kernel)
  obtain ⟨s, hreach, hhead⟩ := hrequest
  obtain ⟨e, he, hsent⟩ := (Option.any_eq_true _ _).mp hhead
  obtain ⟨older, hlog⟩ := List.head?_eq_some_iff.mp he
  cases e with
  | sent i binary =>
    obtain ⟨-, hlogin, hmessage⟩ := (sent_after_login hreach).1 [] i binary older hlog
    exact ⟨s, i, binary, older, hreach, hlog, hlogin, hmessage⟩
  | _ => cases hsent

end Gds
