import Courier.Proofs.Action
import Courier.Proofs.Datagram.Roster

namespace Courier.Datagram

/-! A poll item by item. Its batch is what the datagrams that it took have generated, together
with the failure that has ended it, if one has. The answer of the poll is either of the two, while
the tables are changed by every datagram of the batch. -/

structure Batch where
  events : List RawEvent := []
  failure : Option TransportError := none

namespace Batch

def answer (batch : Batch) (after : σ) : EStateM.Result TransportError σ (List RawEvent) :=
  match batch.failure with
  | none => .ok batch.events after
  | some error => .error error after

/-- What its poll reports of a batch. -/
def told (batch : Batch) : List RawEvent :=
  match batch.failure with
  | none => batch.events
  | some _ => []

def after (events : List RawEvent) (batch : Batch) : Batch :=
  { batch with events := events ++ batch.events }

theorem answer_of_failure_eq_some {batch : Batch} {error : TransportError}
    (failed : batch.failure = some error) (after : σ) :
    batch.answer after = .error error after := by
  rw [answer, failed]

theorem told_of_failure_eq_none {batch : Batch} (ended : batch.failure = none) :
    batch.told = batch.events := by
  rw [told, ended]

theorem told_of_failure_eq_some {batch : Batch} {error : TransportError}
    (failed : batch.failure = some error) : batch.told = [] := by
  rw [told, failed]

end Batch

namespace Station

variable {ν : Type} [Network ν]

def gather (socket : SocketAddress) : (limit wait : Nat) → StateM (Station ν) Batch
  | 0, _ => return {}
  | limit + 1, wait => do
    match ← receive socket wait with
    | .nothing => return {}
    | .reset => gather socket limit 0
    | .failed reason => return { failure := some (.receiveFailed reason) }
    | .datagram source bytes =>
      let events ← handleDatagram source bytes
      return (← gather socket limit 0).after events

def takeBatch (timeout : Nat) : StateM (Station ν) Batch := fun station =>
  match station.endpoint.host with
  | none => ({ failure := some .noHost }, station)
  | some host =>
    gather host.socket (2 * Network.backlog station.process.network host.socket + 1) timeout station

/-- How a batch is gathered: an item at a time, until nothing is left, receiving fails, or enough
has been received. -/
inductive Gathers (socket : SocketAddress) :
    (limit wait : Nat) → Station ν → Batch → Station ν → Prop
  | enough {wait : Nat} {station : Station ν} : Gathers socket 0 wait station {} station
  | nothing {limit wait : Nat} {station arrived : Station ν}
      (received : receive socket wait station = (.nothing, arrived)) :
      Gathers socket (limit + 1) wait station {} arrived
  | failed {limit wait : Nat} {station arrived : Station ν} {reason : String}
      (received : receive socket wait station = (.failed reason, arrived)) :
      Gathers socket (limit + 1) wait station { failure := some (.receiveFailed reason) } arrived
  | reset {limit wait : Nat} {station arrived after : Station ν} {batch : Batch}
      (received : receive socket wait station = (.reset, arrived))
      (rest : Gathers socket limit 0 arrived batch after) :
      Gathers socket (limit + 1) wait station batch after
  | datagram {limit wait : Nat} {source : SocketAddress} {bytes : Bytes}
      {station arrived after : Station ν} {batch : Batch}
      (received : receive socket wait station = (.datagram source bytes, arrived))
      (rest : Gathers socket limit 0 (handleDatagram source bytes arrived).2 batch after) :
      Gathers socket (limit + 1) wait station
        (batch.after (handleDatagram source bytes arrived).1) after

theorem gathers_gather (socket : SocketAddress) (limit wait : Nat) (station : Station ν) :
    Gathers socket limit wait station (gather socket limit wait station).1
      (gather socket limit wait station).2 := by
  induction limit generalizing wait station with
  | zero => exact .enough
  | succ limit ih =>
      cases received : receive socket wait station with
      | mk receipt arrived =>
          cases receipt with
          | nothing =>
              simp only [gather, Bind.bind, StateT.bind, received]
              exact .nothing received
          | reset =>
              simp only [gather, Bind.bind, StateT.bind, received]
              exact .reset received (ih 0 arrived)
          | failed reason =>
              simp only [gather, Bind.bind, StateT.bind, received]
              exact .failed received
          | datagram source bytes =>
              simp only [gather, Bind.bind, StateT.bind, received]
              exact .datagram received (ih 0 _)

theorem roster_of_receive {socket : SocketAddress} {wait : Nat} {station arrived : Station ν}
    {receipt : Receipt} (received : receive socket wait station = (receipt, arrived)) :
    arrived.roster = station.roster := by
  rw [← roster_receive socket wait station, received]

namespace Gathers

variable {socket : SocketAddress} {limit wait : Nat} {station after : Station ν} {batch : Batch}

theorem drain_eq_answer (gathers : Gathers socket limit wait station batch after) :
    drain socket limit wait station = batch.answer after := by
  induction gathers with
  | enough => rfl
  | nothing received =>
      simp only [drain, Bind.bind, EStateM.bind, always, received]
      rfl
  | failed received =>
      simp only [drain, Bind.bind, EStateM.bind, always, received]
      rfl
  | reset received rest ih =>
      simp only [drain, Bind.bind, EStateM.bind, always, received]
      exact ih
  | @datagram limit wait source bytes station arrived after batch received rest ih =>
      simp only [drain, Bind.bind, EStateM.bind, always, received]
      cases handled : handleDatagram source bytes arrived with
      | mk events next =>
          rw [handled] at ih
          simp only [ih, Batch.answer, Batch.after]
          cases batch.failure <;> rfl

theorem drained (gathers : Gathers socket limit wait station batch after) :
    Drained station.roster batch.events after.roster := by
  induction gathers with
  | enough => exact .done
  | nothing received =>
      rw [roster_of_receive received]
      exact .done
  | failed received =>
      rw [roster_of_receive received]
      exact .done
  | reset received rest ih =>
      rw [roster_of_receive received] at ih
      exact ih
  | @datagram limit wait source bytes station arrived after batch received rest ih =>
      rw [← roster_of_receive received]
      exact .more (handleDatagram_applied source bytes arrived) ih

end Gathers

theorem drain_eq_answer (socket : SocketAddress) (limit wait : Nat) (station : Station ν) :
    drain socket limit wait station =
      (gather socket limit wait station).1.answer (gather socket limit wait station).2 :=
  (gathers_gather socket limit wait station).drain_eq_answer

theorem poll_eq (timeout : Nat) (station : Station ν) :
    poll timeout station =
      match station.endpoint.host with
      | none => .error .noHost station
      | some host =>
        drain host.socket (2 * Network.backlog station.process.network host.socket + 1) timeout
          station := by
  simp only [poll, theHost, Bind.bind, EStateM.bind, get_eq]
  cases station.endpoint.host <;> rfl

theorem poll_eq_answer (timeout : Nat) (station : Station ν) :
    poll timeout station = (takeBatch timeout station).1.answer (takeBatch timeout station).2 := by
  rw [poll_eq, takeBatch]
  cases station.endpoint.host with
  | none => rfl
  | some host => exact drain_eq_answer host.socket _ timeout station

theorem takeBatch_drained (timeout : Nat) (station : Station ν) :
    Drained station.roster (takeBatch timeout station).1.events
      (takeBatch timeout station).2.roster := by
  unfold takeBatch
  split
  · exact .done
  · exact (gathers_gather ..).drained

theorem drained_of_drain {socket : SocketAddress} {limit wait : Nat} {station after : Station ν}
    {events : List RawEvent} (drained : drain socket limit wait station = .ok events after) :
    Drained station.roster events after.roster := by
  have gathered := (gathers_gather socket limit wait station).drained
  rw [drain_eq_answer, Batch.answer] at drained
  split at drained
  · cases drained
    exact gathered
  · cases drained

theorem drain_of_poll {timeout : Nat} {station after : Station ν} {events : List RawEvent}
    (polled : poll timeout station = .ok events after) :
    ∃ socket limit, drain socket limit timeout station = .ok events after := by
  rw [poll_eq] at polled
  cases hosting : station.endpoint.host with
  | none =>
      rw [hosting] at polled
      cases polled
  | some host =>
      rw [hosting] at polled
      exact ⟨_, _, polled⟩

theorem drained_of_poll {timeout : Nat} {station after : Station ν} {events : List RawEvent}
    (polled : poll timeout station = .ok events after) :
    Drained station.roster events after.roster := by
  obtain ⟨socket, limit, drains⟩ := drain_of_poll polled
  exact drained_of_drain drains

/-- A poll that fails has drained too, with nothing told. -/
theorem drained_of_poll_error {timeout : Nat} {station after : Station ν} {error : TransportError}
    (failed : poll timeout station = .error error after) :
    ∃ events, Drained station.roster events after.roster := by
  have drained := takeBatch_drained timeout station
  rw [poll_eq_answer, Batch.answer] at failed
  split at failed
  · cases failed
  · cases failed
    exact ⟨_, drained⟩

theorem poll_of_vacant {station : Station ν} (vacant : station.endpoint.host = none)
    (timeout : Nat) : poll timeout station = .error .noHost station := by
  rw [poll_eq, vacant]

end Station

end Courier.Datagram
