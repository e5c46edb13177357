import RmttGo.PushLanes

/-!
# The pipeline of a connection is started once

`startWorkers` starts the pipeline of a connection that `attemptConnection` has
just returned.  When every attempt returns another connection, no pipeline is
started a second time.
-/

namespace RmttGo

namespace Client

open Codec

section Fresh

/-- The connection that a goroutine is about to start the pipeline of. -/
def Activity.opens : Activity → Option Nat
  | .starting conn | .reporting conn | .startingComms conn => conn
  | _ => none

/-- The connection that `attemptConnection` returns. -/
def PushEvent.dials : PushEvent → Option Nat
  | .client (.attemptSucceeded _ conn) => conn
  | _ => none

theorem Activity.opens_afterConnecting (options : Options) (call : Call) :
    (Activity.afterConnecting options call).opens = none := by
  unfold Activity.afterConnecting
  split
  · split <;> rfl
  · rfl

theorem Activity.opens_afterDisconnecting (call : Call) :
    (Activity.afterDisconnecting call).opens = none := by
  unfold Activity.afterDisconnecting
  split <;> rfl

theorem Activity.opens_afterConnectionLost (conn : Option Nat) (call : Call) :
    (Activity.afterConnectionLost conn call).opens = none := by
  unfold Activity.afterConnectionLost
  split <;> rfl

theorem Activity.opens_afterHandler (call : Call) :
    (Activity.afterHandler call).opens = none := by
  unfold Activity.afterHandler
  split <;> rfl

namespace ClientSystem

variable {options : Options} {s next : ClientSystem} {event : ClientEvent}

/-- Nobody is about to start a pipeline who was not before. -/
def OpensLess (s next : ClientSystem) : Prop :=
  ∀ goroutine conn, (next.activity goroutine).opens = some conn →
    (s.activity goroutine).opens = some conn

theorem OpensLess.become {goroutine : Nat} {activity : Activity}
    (less : s.OpensLess next)
    (opens : ∀ conn, activity.opens = some conn →
      (s.activity goroutine).opens = some conn) :
    s.OpensLess (next.become goroutine activity) := by
  intro other conn isOpened
  by_cases same : other = goroutine
  · subst same
    apply opens
    simpa [ClientSystem.become] using isOpened
  · apply less
    simpa [ClientSystem.become, same] using isOpened

theorem opensLess_withStatus {goroutine : Nat} {statusEvent : StatusEvent}
    {goOn : Call → Activity} {before : ClientSystem}
    (same : before.activity = s.activity)
    (opens : ∀ call conn, (goOn call).opens = some conn →
      (s.activity goroutine).opens = some conn)
    (stepped : before.withStatus goroutine statusEvent goOn = some next) :
    s.OpensLess next := by
  obtain ⟨status, -, rfl⟩ := Option.map_eq_some_iff.mp stepped
  refine OpensLess.become ?_ (opens _)
  intro other conn isOpened
  exact same ▸ isOpened

theorem opensLess_spawn {worker : Nat} {conn : Option Nat} {before : ClientSystem}
    (less : s.OpensLess before) (stepped : before.spawn worker conn = some next) :
    s.OpensLess next := by
  obtain ⟨-, ⟨⟩⟩ := Option.ite_none_right_eq_some.mp stepped
  exact OpensLess.become less (by simp [Activity.opens])

theorem opensLess_of_step (stepped : s.step options event = some next)
    (notDialed : ∀ goroutine conn, event ≠ .attemptSucceeded goroutine conn) :
    s.OpensLess next := by
  have same : s.OpensLess s := fun _ _ isOpened => isOpened
  cases event with
  | attemptSucceeded goroutine conn => exact absurd rfl (notDialed goroutine conn)
  | connect goroutine =>
      obtain ⟨-, stepped⟩ := Option.ite_none_right_eq_some.mp stepped
      exact opensLess_withStatus rfl
        (by simp [Activity.opens_afterConnecting]) stepped
  | attemptFailed goroutine retryable conn =>
      simp only [step] at stepped
      split at stepped
      · split at stepped <;> cases stepped
        · exact same
        · exact OpensLess.become same (by simp [Activity.opens])
      · split at stepped <;> cases stepped
        · exact OpensLess.become same (by simp [Activity.opens])
        · exact same
      · cases stepped
  | startWorkers goroutine keepalive =>
      simp only [step] at stepped
      split at stepped
      case h_1 conn starting =>
        have locked : s.OpensLess { s with conn, connMu := some goroutine } :=
          fun _ _ isOpened => isOpened
        have installed : s.OpensLess (s.install goroutine conn) :=
          locked.become (by simp [Activity.opens, starting])
        split at stepped
        · cases stepped
        · split at stepped
          · cases stepped
            exact OpensLess.become same (by simp [Activity.opens])
          · split at stepped
            · exact opensLess_spawn installed stepped
            · cases stepped
              exact installed
      case h_2 => cases stepped
  | connectionUp goroutine =>
      simp only [step] at stepped
      split at stepped
      case h_1 => exact opensLess_withStatus rfl (by simp [Activity.opens]) stepped
      case h_2 =>
        exact opensLess_withStatus (s := s) (by rfl) (by simp [Activity.opens]) stepped
      case h_3 conn reporting =>
        exact opensLess_withStatus rfl (by simp [Activity.opens, reporting]) stepped
      case h_4 => cases stepped
  | startComms goroutine comms incoming =>
      simp only [step] at stepped
      split at stepped
      case h_1 conn startingComms =>
        obtain ⟨between, spawned, spawnedToo⟩ := Option.bind_eq_some_iff.mp stepped
        have unlocked : s.OpensLess { s with connMu := none } :=
          fun _ _ isOpened => isOpened
        have released : s.OpensLess
            ({ s with connMu := none }.become goroutine .finished) :=
          unlocked.become (by simp [Activity.opens])
        exact opensLess_spawn (opensLess_spawn released spawned) spawnedToo
      case h_2 => cases stepped
  | disconnect goroutine =>
      obtain ⟨-, stepped⟩ := Option.ite_none_right_eq_some.mp stepped
      exact opensLess_withStatus rfl
        (by simp [Activity.opens_afterDisconnecting]) stepped
  | resume goroutine =>
      simp only [step] at stepped
      split at stepped
      · exact opensLess_withStatus rfl
          (by simp [Activity.opens_afterDisconnecting]) stepped
      · exact opensLess_withStatus rfl
          (by simp [Activity.opens_afterConnectionLost]) stepped
      · cases stepped
  | stopCommsWorkers goroutine waiter =>
      obtain ⟨-, stepped⟩ := Option.ite_none_left_eq_some.mp stepped
      split at stepped
      case h_1 =>
        cases stepped
        exact OpensLess.become same (by simp [Activity.opens])
      case h_2 =>
        cases stepped
        exact OpensLess.become same (by simp [Activity.opens])
      case h_3 =>
        cases stepped
        exact OpensLess.become same (by simp [Activity.opens])
      case h_4 =>
        obtain ⟨-, ⟨⟩⟩ := Option.ite_none_right_eq_some.mp stepped
        exact OpensLess.become (OpensLess.become same (by simp [Activity.opens]))
          (by simp [Activity.opens])
      case h_5 => cases stepped
  | workersStopped goroutine =>
      obtain ⟨-, stepped⟩ := Option.ite_none_left_eq_some.mp stepped
      split at stepped
      case h_3 => cases stepped
      all_goals
        cases stepped
        exact OpensLess.become same (by simp [Activity.opens])
  | disDone goroutine =>
      simp only [step] at stepped
      split at stepped
      · exact opensLess_withStatus rfl (by simp [Activity.opens]) stepped
      · exact opensLess_withStatus rfl (by simp [Activity.opens]) stepped
      · exact opensLess_withStatus rfl (by simp [Activity.opens_afterHandler]) stepped
      · cases stepped
  | reportLoss goroutine =>
      simp only [step] at stepped
      split at stepped
      case h_1 =>
        cases stepped
        exact OpensLess.become same (by simp [Activity.opens])
      case h_2 => cases stepped
  | connectionLost goroutine =>
      simp only [step] at stepped
      split at stepped
      · exact opensLess_withStatus rfl
          (by simp [Activity.opens_afterConnectionLost]) stepped
      · cases stepped
  | workerDone goroutine =>
      simp only [step] at stepped
      split at stepped
      case h_1 =>
        cases stepped
        exact OpensLess.become same (by simp [Activity.opens])
      case h_2 => cases stepped

/-- The goroutine that starts a pipeline has done with it. -/
theorem opens_of_starts {conn : Nat} (starts : event.starts s = some conn)
    (stepped : s.step options event = some next) :
    ∃ goroutine, (s.activity goroutine).opens = some conn ∧
      (next.activity goroutine).opens = none := by
  cases event with
  | startComms goroutine comms incoming =>
      simp only [ClientEvent.starts] at starts
      split at starts
      case h_1 started startingComms =>
        cases starts
        simp only [step, startingComms] at stepped
        obtain ⟨between, spawned, spawnedToo⟩ := Option.bind_eq_some_iff.mp stepped
        obtain ⟨-, ⟨⟩⟩ := Option.ite_none_right_eq_some.mp spawned
        obtain ⟨-, ⟨⟩⟩ := Option.ite_none_right_eq_some.mp spawnedToo
        refine ⟨goroutine, by rw [startingComms]; rfl, ?_⟩
        -- Behind `startComms` the goroutine has finished, unless it is a worker.
        by_cases isIncoming : goroutine = incoming
        · subst isIncoming
          simp [become, Activity.opens]
        · by_cases isComms : goroutine = comms
          · subst isComms
            simp [become, isIncoming, Activity.opens]
          · simp [become, isIncoming, isComms, Activity.opens]
      case h_2 => cases starts
  | _ => cases starts

end ClientSystem

/-- Nothing of the pipeline has been started. -/
def Lane.Absent (lane : Lane) : Prop :=
  lane.outgoing = .absent ∧ lane.redirector = .absent

theorem LaneStep.absent {starts : Prop} {lane after : Lane}
    {handed settled : Option (Nat × Bytes)}
    (laneStep : LaneStep starts lane handed settled after) (absent : lane.Absent)
    (notStarted : ¬ starts) : after.Absent := by
  obtain ⟨outgoing, redirector⟩ := absent
  cases laneStep with
  | aside writes => exact ⟨outgoing, redirector⟩
  | start isStarted => exact absurd isStarted notStarted
  | take content waiting => cases redirector.symm.trans waiting
  | takeDisconnect waiting => cases redirector.symm.trans waiting
  | forward forwarding waiting => cases outgoing.symm.trans waiting
  | prepare received writes => cases outgoing.symm.trans received
  | write now outcome writing => cases outgoing.symm.trans writing
  | settle settling writes => cases outgoing.symm.trans settling
  | stopRedirector waiting => cases redirector.symm.trans waiting
  | stopOutgoing waiting => cases outgoing.symm.trans waiting
  | @writeOther packet now outcome notPush => exact ⟨outgoing, redirector⟩

namespace PushSystem

variable {options : PushOptions} {s next : PushSystem} {event : PushEvent}
  {past : List PushEvent}

theorem client_prepareOutbound (conn now : Nat) (message : Outbound) :
    (s.prepareOutbound options conn now message).client = s.client := by
  unfold prepareOutbound
  split
  · split <;> rfl
  · rfl

theorem client_settleOutbound (conn : Nat) (message : Outbound) (written : Bool) :
    (s.settleOutbound options conn message written).client = s.client := by
  unfold settleOutbound
  split
  · split <;> rfl
  · rfl
  · rfl
  · rfl

theorem client_startPipeline (started : Option Nat) :
    (s.startPipeline started).client = s.client := by
  cases started <;> rfl

theorem client_closeWire (closed : Option Nat) :
    (s.closeWire closed).client = s.client := by
  cases closed <;> rfl

theorem client_of_step (stepped : s.step options event = some next) :
    (∃ clientEvent, event = .client clientEvent ∧
      s.client.step options.toOptions clientEvent = some next.client) ∨
    ((∀ clientEvent, event ≠ .client clientEvent) ∧ next.client = s.client) := by
  cases event with
  | client event =>
      obtain ⟨client, isNext, rfl⟩ := Option.map_eq_some_iff.mp stepped
      refine .inl ⟨event, rfl, ?_⟩
      rw [client_closeWire, client_startPipeline]
      exact isNext
  | push call payload =>
      obtain ⟨-, stepped⟩ := Option.ite_none_right_eq_some.mp stepped
      split at stepped <;> cases stepped <;> exact .inr ⟨by simp, rfl⟩
  | lookAgain call =>
      simp only [step] at stepped
      split at stepped
      · split at stepped
        · cases stepped
          exact .inr ⟨by simp, rfl⟩
        · split at stepped <;> cases stepped <;> exact .inr ⟨by simp, rfl⟩
      · cases stepped
  | setDeadline conn now =>
      simp only [step] at stepped
      split at stepped
      · cases stepped
        exact .inr ⟨by simp, client_prepareOutbound ..⟩
      · cases stepped
  | settle conn =>
      simp only [step] at stepped
      split at stepped
      · cases stepped
        exact .inr ⟨by simp, client_settleOutbound ..⟩
      · cases stepped
  | timeOut call | handOver call conn | forward conn | write conn now outcome =>
      simp only [step] at stepped
      split at stepped
      all_goals cases stepped
      exact .inr ⟨by simp, rfl⟩
  | _ =>
      obtain ⟨-, ⟨⟩⟩ := Option.ite_none_right_eq_some.mp stepped
      exact .inr ⟨by simp, rfl⟩

/-- Each connection is started once. -/
structure Fresh (past : List PushEvent) (s : PushSystem) : Prop where
  unique : ∀ {goroutine other conn : Nat},
    (s.client.activity goroutine).opens = some conn →
      (s.client.activity other).opens = some conn → goroutine = other
  dialed : ∀ {goroutine conn : Nat},
    (s.client.activity goroutine).opens = some conn →
      conn ∈ past.filterMap PushEvent.dials
  unstarted : ∀ {goroutine conn : Nat},
    (s.client.activity goroutine).opens = some conn → (s.lane conn).Absent
  untouched : ∀ {conn : Nat}, conn ∉ past.filterMap PushEvent.dials →
    (s.lane conn).Absent

theorem initial_fresh : Fresh [] initial where
  unique := by simp [initial, ClientSystem.initial, Activity.opens]
  dialed := by simp [initial, ClientSystem.initial, Activity.opens]
  unstarted := by simp [initial, ClientSystem.initial, Activity.opens]
  untouched := fun _ => ⟨rfl, rfl⟩

/-- Who is about to start a pipeline was so before, or has just dialed. -/
theorem opens_of_step {goroutine conn : Nat}
    (stepped : s.step options event = some next)
    (opens : (next.client.activity goroutine).opens = some conn) :
    (s.client.activity goroutine).opens = some conn ∨
      event = .client (.attemptSucceeded goroutine (some conn)) := by
  rcases client_of_step stepped with ⟨clientEvent, rfl, moved⟩ | ⟨-, same⟩
  · by_cases dials : ∃ dialer dialed, clientEvent = .attemptSucceeded dialer dialed
    · obtain ⟨dialer, dialed, rfl⟩ := dials
      simp only [ClientSystem.step] at moved
      split at moved
      case h_1 =>
        rw [← Option.some.inj moved] at opens
        by_cases isDialer : goroutine = dialer
        · subst isDialer
          simp only [ClientSystem.become, Function.update_self, Activity.opens]
            at opens
          exact .inr (by rw [opens])
        · left
          simpa [ClientSystem.become, isDialer] using opens
      case h_2 => cases moved
    · left
      refine ClientSystem.opensLess_of_step moved ?_ goroutine conn opens
      rintro dialer dialed rfl
      exact dials ⟨dialer, dialed, rfl⟩
  · rw [same] at opens
    exact .inl opens

theorem opens_of_event_starts {conn : Nat} (starts : event.starts s = some conn)
    (stepped : s.step options event = some next) :
    ∃ goroutine, (s.client.activity goroutine).opens = some conn ∧
      (next.client.activity goroutine).opens = none := by
  rcases client_of_step stepped with ⟨clientEvent, rfl, moved⟩ | ⟨notClient, -⟩
  · exact ClientSystem.opens_of_starts starts moved
  · cases event with
    | client event => exact absurd rfl (notClient event)
    | _ => cases starts

theorem Fresh.step (fresh : Fresh past s) (offers : s.Offers)
    (anew : ∀ conn, event.dials = some conn → conn ∉ past.filterMap PushEvent.dials)
    (stepped : s.step options event = some next) :
    Fresh (past ++ [event]) next := by
  have stays {conn : Nat} (absent : (s.lane conn).Absent)
      (notStarted : event.starts s ≠ some conn) : (next.lane conn).Absent := by
    obtain ⟨handed, settled, moves⟩ := exists_moves offers stepped conn
    exact moves.laneStep.absent absent notStarted
  constructor
  · intro goroutine other conn opens otherOpens
    rcases opens_of_step stepped opens with before | rfl
    · rcases opens_of_step stepped otherOpens with otherBefore | rfl
      · exact fresh.unique before otherBefore
      · exact absurd (fresh.dialed before) (anew conn rfl)
    · rcases opens_of_step stepped otherOpens with otherBefore | same
      · exact absurd (fresh.dialed otherBefore) (anew conn rfl)
      · cases same
        rfl
  · intro goroutine conn opens
    rw [List.filterMap_append, List.mem_append]
    rcases opens_of_step stepped opens with before | rfl
    · exact .inl (fresh.dialed before)
    · exact .inr (by simp [PushEvent.dials])
  · intro goroutine conn opens
    rcases opens_of_step stepped opens with before | rfl
    · apply stays (fresh.unstarted before)
      intro starts
      obtain ⟨starter, startsBefore, done⟩ := opens_of_event_starts starts stepped
      rw [fresh.unique startsBefore before] at done
      cases done.symm.trans opens
    · apply stays (fresh.untouched (anew conn rfl))
      simp [PushEvent.starts, ClientEvent.starts]
  · intro conn notDialed
    rw [List.filterMap_append, List.mem_append, not_or] at notDialed
    apply stays (fresh.untouched notDialed.1)
    intro starts
    obtain ⟨starter, startsBefore, -⟩ := opens_of_event_starts starts stepped
    exact notDialed.1 (fresh.dialed startsBefore)

end PushSystem

end Fresh

end Client

end RmttGo
