import Courier.Proofs.Datagram.Calls
import Courier.Transport.Call
import Mathlib.Logic.Relation

namespace Courier.Datagram

/-- What happens to a station: its own calls, whatever comes of them, and what goes on elsewhere in
its process, where the network changes and other stations are given peer handles. -/
inductive Occurrence (ν : Type) where
  | call (call : TransportCall)
  | elsewhere (network : ν) (handles : Nat)

/-- Of the tables an occurrence changes a bit at a time. A new link is made by a request to connect,
or by a poll. -/
inductive Moved : Roster → Roster → Prop
  | closed {roster : Roster} : Moved roster ⟨none, roster.nextPeer⟩
  | opened {next : Nat} (role : Role) (socket : SocketAddress) (channels : UInt8) (maxPeers : Nat)
      (single : role = .client → maxPeers = 1) :
      Moved ⟨none, next⟩ ⟨some { role, socket, channels, maxPeers }, next⟩
  | left {roster : Roster} (peer : PeerHandle) : Moved roster (roster.remove peer)
  | drained {before after : Roster} {events : List RawEvent}
      (drained : Drained before events after) : Moved before after
  | elsewhere {roster : Roster} (handles : Nat) :
      Moved roster ⟨roster.host, roster.nextPeer + handles⟩

abbrev Moves : Roster → Roster → Prop := Relation.ReflTransGen Moved

inductive Dialled : Roster → Roster → Prop
  | made {known : Host} {next : Nat} {socket : SocketAddress} {link : Link}
      (room : known.isFull = false)
      (sender : known.socket = socket ∨ known.role = .client)
      (waiting : link.state = .connecting) :
      Dialled ⟨some known, next⟩ ⟨some ({ known with socket }.insert ⟨next⟩ link), next + 1⟩

theorem Moves.foldl_remove (roster : Roster) (peers : List PeerHandle) :
    Moves roster (peers.foldl Roster.remove roster) := by
  induction peers generalizing roster with
  | nil => exact .refl
  | cons peer rest ih => exact .head (.left peer) (ih (roster.remove peer))

namespace Station

variable {ν : Type} [Network ν]

def meet (station : Station ν) : Occurrence ν → Station ν
  | .call call => attempt call.run station
  | .elsewhere network handles =>
    { station with process := { network, nextPeer := station.process.nextPeer + handles } }

def after (station : Station ν) (history : List (Occurrence ν)) : Station ν :=
  history.foldl meet station

/-- What is reported: the events that a poll returns. -/
def reports (station : Station ν) : Occurrence ν → List RawEvent
  | .call (.poll timeout) =>
    match poll timeout station with
    | .ok events _ => events
    | .error _ _ => []
  | _ => []

def reported (station : Station ν) : List (Occurrence ν) → List RawEvent
  | [] => []
  | occurrence :: rest => station.reports occurrence ++ (station.meet occurrence).reported rest

theorem after_append (station : Station ν) (past later : List (Occurrence ν)) :
    station.after (past ++ later) = (station.after past).after later :=
  List.foldl_append

theorem meet_poll (timeout : Nat) (station : Station ν) :
    station.meet (.call (.poll timeout)) = (takeBatch timeout station).2 := by
  change attempt (poll timeout) station = _
  rw [attempt, poll_eq_answer, Batch.answer]
  cases (takeBatch timeout station).1.failure <;> rfl

theorem reports_poll (timeout : Nat) (station : Station ν) :
    station.reports (.call (.poll timeout)) = (takeBatch timeout station).1.told := by
  rw [reports, poll_eq_answer, Batch.answer, Batch.told]
  cases (takeBatch timeout station).1.failure <;> rfl

theorem drained_of_mem_reports {station : Station ν} {occurrence : Occurrence ν}
    {event : RawEvent} (told : event ∈ station.reports occurrence) :
    ∃ events, event ∈ events ∧
      Drained station.roster events (station.meet occurrence).roster := by
  cases occurrence with
  | elsewhere network handles => cases told
  | call call =>
      cases call with
      | poll timeout =>
          refine ⟨(takeBatch timeout station).1.events, ?_, ?_⟩
          · rw [reports_poll, Batch.told] at told
            split at told
            · exact told
            · cases told
          · rw [meet_poll]
            exact takeBatch_drained timeout station
      | _ => cases told

theorem meet_createServer (name : String) (port : UInt16) (channels : UInt8) (maxPeers : Nat)
    (station : Station ν) :
    Moves station.roster
      (attempt (createServer name port channels maxPeers) station).roster := by
  rcases createServer_cases name port channels maxPeers station with
    ⟨error, network, failed⟩ | ⟨vacant, socket, network, made⟩
  · rw [attempt, failed]
    exact .refl
  · rw [attempt, made, roster_of_host vacant]
    exact .single (.opened .server socket channels maxPeers (by simp))

theorem meet_createClient (channels : UInt8) (station : Station ν) :
    Moves station.roster (attempt (createClient channels) station).roster := by
  rcases createClient_cases channels station with
    ⟨error, network, failed⟩ | ⟨vacant, socket, network, made⟩
  · rw [attempt, failed]
    exact .refl
  · rw [attempt, made, roster_of_host vacant]
    exact .single (.opened .client socket channels 1 fun _ => rfl)

theorem meet_moves {occurrence : Occurrence ν}
    (others : ∀ name port channels, occurrence ≠ .call (.connect name port channels))
    (station : Station ν) : Moves station.roster (station.meet occurrence).roster := by
  cases occurrence with
  | elsewhere network handles => exact .single (.elsewhere handles)
  | call call =>
      cases call with
      | start =>
          change Moves _ station.start.roster
          rw [roster_start]
      | stop =>
          change Moves _ station.stop.roster
          rw [roster_stop]
          exact .single .closed
      | createServer name port channels maxPeers =>
          exact meet_createServer name port channels maxPeers station
      | createClient channels => exact meet_createClient channels station
      | connect name port channels => exact absurd rfl (others name port channels)
      | disconnect =>
          change Moves _ (attempt disconnect station).roster
          obtain ⟨peers, left⟩ := roster_disconnect station
          rw [left]
          exact .foldl_remove station.roster peers
      | disconnectPeer peer =>
          change Moves _ (attempt (disconnectPeer peer) station).roster
          rw [roster_disconnectPeer]
          exact .single (.left peer)
      | poll timeout =>
          rw [meet_poll]
          exact .single (.drained (takeBatch_drained timeout station))
      | send peer channel data flags =>
          change Moves _ (attempt (send peer channel data flags) station).roster
          rw [roster_send]

theorem meet_cases (station : Station ν) (occurrence : Occurrence ν) :
    Moves station.roster (station.meet occurrence).roster ∨
      Dialled station.roster (station.meet occurrence).roster := by
  by_cases request : ∃ name port channels, occurrence = .call (.connect name port channels)
  · obtain ⟨name, port, channels, rfl⟩ := request
    change Moves _ (attempt (connect name port channels) station).roster ∨
      Dialled _ (attempt (connect name port channels) station).roster
    rcases roster_connect_cases name port channels station with same |
      ⟨known, address, socket, link, hosting, -, room, sender, -, -, waiting, made⟩
    · rw [same]
      exact .inl .refl
    · rw [made, roster_of_host hosting]
      exact .inr (.made room (sender.imp_left And.right) waiting)
  · exact .inl (meet_moves (fun name port channels same =>
      request ⟨name, port, channels, same⟩) station)

end Station

end Courier.Datagram
