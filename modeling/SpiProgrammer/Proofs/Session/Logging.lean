import SpiProgrammer.Proofs.Bridge.Steps
import SpiProgrammer.Proofs.Dialogue.Layers
import SpiProgrammer.Session.Basic

/-! # What a session says

Main statements: what is said to the bridge and heard from it leaves log records, none of them a
warning, and whatever a session does to serve a master, it only logs.  Output and reports of
progress are those of the operation that it serves. -/
set_option autoImplicit false

namespace SpiProgrammer

/-- A log record that is no warning. -/
def Notice.IsPlainLog (notice : Notice) : Prop :=
  ∃ record, notice = .log record ∧ record.level ≠ .warn

theorem Notice.IsPlainLog.isLog (notice : Notice) (plain : notice.IsPlainLog) : notice.IsLog := by
  obtain ⟨record, logged, -⟩ := plain
  exact ⟨record, logged⟩

namespace Bridge

open Notice (IsPlainLog)

variable {α β : Type}

theorem utters_complaining (complaint : Error → String) {exchange : Exchange α}
    (logs : exchange.run.Utters IsPlainLog) :
    (complaining complaint exchange).run.Utters IsPlainLog := by
  unfold complaining
  rw [ExceptT.run_tryCatch]
  refine Dialogue.utters_bind logs fun outcome => ?_
  cases outcome with
  | ok value => trivial
  | error error => exact Dialogue.utters_bind_except ⟨⟨_, rfl, nofun⟩, trivial⟩ fun _ => trivial

theorem utters_sendAll (what : String) (complaint : Error → String) (bytes : Bytes) :
    (sendAll what complaint bytes).run.Utters IsPlainLog := by
  unfold sendAll
  have sending : (send bytes).run.Utters IsPlainLog := fun _ => trivial
  refine Dialogue.utters_bind_except (utters_complaining complaint sending) fun count => ?_
  split <;> trivial

theorem utters_sendFrame (command : Command) : (sendFrame command).run.Utters IsPlainLog :=
  Dialogue.utters_bind_except ⟨⟨_, rfl, nofun⟩, trivial⟩ fun _ => utters_sendAll _ _ _

theorem utters_receive (what : String) (length : Nat) :
    (receive what length).Utters IsPlainLog := by
  unfold receive
  refine Dialogue.utters_bind (fun _ => trivial) fun reply => ?_
  cases reply with
  | error error => exact ⟨⟨_, rfl, nofun⟩, trivial⟩
  | ok reply =>
    show Dialogue.Utters IsPlainLog (if _ then _ else _)
    split <;> trivial

theorem utters_ask (command : Command) (length : Nat) : (ask command length).Utters IsPlainLog := by
  unfold ask
  refine Dialogue.utters_bind (utters_sendFrame command) fun outcome => ?_
  cases outcome with
  | error error => trivial
  | ok _ => exact utters_receive command.name length

theorem utters_heard {receiving : Dialogue Link (Received Error)}
    (logs : receiving.Utters IsPlainLog) : (heard receiving).run.Utters IsPlainLog :=
  Dialogue.utters_bind logs fun _ => trivial

theorem utters_query (command : Command) (form : AnswerForm α) :
    (query command form).run.Utters IsPlainLog := by
  rw [query_eq_ask]
  exact Dialogue.utters_bind_except (utters_heard (utters_ask command form.length)) fun _ => trivial

theorem utters_setSelect (level : SelectLevel) : (setSelect level).run.Utters IsPlainLog :=
  utters_complaining _ (utters_query _ _)

theorem utters_checkStatus : checkStatus.run.Utters IsPlainLog := by
  have looks : lastStatus.run.Utters IsPlainLog :=
    Dialogue.utters_bind_except (utters_query _ _) fun _ => trivial
  refine Dialogue.utters_bind_except looks fun status => ?_
  split
  · trivial
  · exact Dialogue.utters_bind_except ⟨⟨_, rfl, nofun⟩, trivial⟩ fun _ => trivial

theorem utters_write (data : Bytes) : (write data).run.Utters IsPlainLog := by
  unfold write
  by_cases tooLong : transferMax < data.length
  · rw [if_pos tooLong]
    trivial
  rw [if_neg tooLong]
  refine Dialogue.utters_bind_except (utters_sendFrame _) fun _ => ?_
  by_cases long : leadingMax < data.length
  · rw [if_pos long]
    exact utters_sendAll _ _ _
  · rw [if_neg long]
    trivial

theorem utters_readSome (length : Nat) : (readSome length).Utters IsPlainLog := by
  unfold readSome read
  split
  · trivial
  split
  · trivial
  · exact utters_ask (.read (.ofNat length)) length

theorem utters_andThen (received : Received Error) {next : Exchange Unit}
    (logs : next.run.Utters IsPlainLog) : (andThen received next).Utters IsPlainLog := by
  unfold andThen
  split
  · trivial
  · exact Dialogue.utters_bind logs fun _ => trivial

theorem utters_exchangeSelected (data : Bytes) (length : Nat) :
    (exchangeSelected data length).Utters IsPlainLog := by
  unfold exchangeSelected
  refine Dialogue.utters_bind
    (Dialogue.utters_bind_except (utters_write data) fun _ => utters_checkStatus) fun outcome => ?_
  cases outcome with
  | error error => trivial
  | ok _ =>
    exact Dialogue.utters_bind (utters_readSome length) fun received =>
      utters_andThen received utters_checkStatus

theorem utters_abandon : abandon.Utters IsPlainLog := by
  refine Dialogue.utters_bind (utters_setSelect .high) fun outcome => ?_
  cases outcome with
  | error error => exact ⟨⟨_, rfl, nofun⟩, trivial⟩
  | ok _ => trivial

theorem utters_transact (data : Bytes) (length : Nat) : (transact data length).Utters IsPlainLog := by
  unfold transact
  split
  · trivial
  split
  · trivial
  refine Dialogue.utters_bind (utters_setSelect .low) fun outcome => ?_
  cases outcome with
  | error error => trivial
  | ok _ =>
    refine Dialogue.utters_bind (utters_exchangeSelected data length) fun received => ?_
    split
    · exact utters_andThen received (utters_setSelect .high)
    · exact Dialogue.utters_bind utters_abandon fun _ => trivial

end Bridge

theorem Session.utters_serve (r : Spi.MasterRequest) : (serve r).Utters Notice.IsLog := by
  cases r with
  | delay time => trivial
  | execute command =>
    refine Dialogue.utters_bind ⟨⟨_, rfl⟩, trivial⟩ fun _ => ?_
    refine Dialogue.utters_bind
      ((Bridge.utters_transact _ _).imp Notice.IsPlainLog.isLog) fun received => ?_
    split
    · exact Dialogue.utters_bind ⟨⟨_, rfl⟩, trivial⟩ fun _ => trivial
    · trivial

end SpiProgrammer
