import Courier.Loopback
import Courier.Proofs.Datagram.Links

namespace Courier.Datagram.Station

/-! What is told of the links. A poll that ends well reports its batch; the batch of a poll that
fails has changed the links, and is reported by no poll, then or later. -/

variable {ν : Type} [Network ν]

theorem fades_meet {station : Station ν} (sound : station.roster.Sound) {peer : PeerHandle}
    (settled : station.roster.Settled peer) (occurrence : Occurrence ν) :
    station.roster.Fades (station.meet occurrence).roster peer := by
  rcases station.meet_cases occurrence with moves | dialled
  · exact settled.moves sound moves
  · exact settled.dialled dialled

theorem not_mem_reported_of_spent {station : Station ν} (sound : station.roster.Sound)
    {event : RawEvent} (spent : station.roster.Spent event) (history : List (Occurrence ν)) :
    event ∉ station.reported history := by
  induction history generalizing station with
  | nil => simp [reported]
  | cons occurrence rest ih =>
      rw [reported, List.mem_append, not_or]
      constructor
      · intro told
        obtain ⟨events, mem, drained⟩ := drained_of_mem_reports told
        exact spent.not_mem_of_drained sound drained mem
      · have fades := fades_meet sound spent.settled occurrence
        exact ih (sound_meet sound occurrence) (fades.spent spent)

theorem reported_poll (timeout : Nat) (station : Station ν) (later : List (Occurrence ν)) :
    station.reported (.call (.poll timeout) :: later) =
      (takeBatch timeout station).1.told ++ (takeBatch timeout station).2.reported later := by
  rw [reported, reports_poll, meet_poll]

/-- An event of a link that a failing poll has generated is never reported. -/
theorem not_mem_reported_of_failed {station : Station ν} (sound : station.roster.Sound)
    {timeout : Nat} {error : TransportError}
    (failed : (takeBatch timeout station).1.failure = some error) {event : RawEvent}
    (mem : event ∈ (takeBatch timeout station).1.events) (ofLink : event.IsOfLink)
    (later : List (Occurrence ν)) :
    event ∉ station.reported (.call (.poll timeout) :: later) := by
  have drained := takeBatch_drained timeout station
  rw [reported_poll, Batch.told_of_failure_eq_some failed, List.nil_append]
  exact not_mem_reported_of_spent (sound.drained drained)
    (Roster.spent_of_mem_drained sound drained mem ofLink) later

/-- Of the datagrams that a poll applies to the links, the events are reported exactly if the poll
does not fail. -/
theorem reported_iff_not_failed (process : Process ν) (past : List (Occurrence ν))
    (timeout : Nat) :
    let station := ({ process } : Station ν).after past
    let batch := (takeBatch timeout station).1
    let next := (takeBatch timeout station).2
    poll timeout station = batch.answer next ∧
      Drained station.roster batch.events next.roster ∧
      (∀ later, station.reported (.call (.poll timeout) :: later) =
        batch.told ++ next.reported later) ∧
      ∀ event ∈ batch.events, event.IsOfLink →
        ((∃ later, event ∈ station.reported (.call (.poll timeout) :: later)) ↔
          batch.failure = none) := by
  intro station batch next
  have sound : station.roster.Sound := sound_of_history process past
  refine ⟨poll_eq_answer timeout station, takeBatch_drained timeout station,
    reported_poll timeout station, fun event mem ofLink => ⟨?_, ?_⟩⟩
  · rintro ⟨later, told⟩
    cases failed : batch.failure with
    | none => rfl
    | some error =>
        exact absurd told (not_mem_reported_of_failed sound failed mem ofLink later)
  · intro ended
    refine ⟨[], ?_⟩
    rw [reported_poll, Batch.told_of_failure_eq_none ended]
    exact List.mem_append_left _ mem

/-- A server with a peer at its door, and a socket that fails right after the peer's request. -/
def interrupted : List (Occurrence Loopback) :=
  let source : SocketAddress := { ip := .v4 0x7f000001, port := 4000 }
  let socket : SocketAddress := { ip := .v4 0x7f000001, port := 9000 }
  let queue : List Receipt :=
    [.datagram source (Frame.connect 1).encode, .failed "operation interrupted"]
  [.call .start, .call (.createServer "127.0.0.1" 9000 1 4),
    .elsewhere { queues := .ofList [(socket, queue)] } 0]

/-- The peer has a link from then on, and no poll ever tells of it. -/
theorem unreported_of_interrupted :
    let station := ({ process := { network := {} } } : Station Loopback).after interrupted
    ∃ reason after link,
      poll 0 station = .error (.receiveFailed reason) after ∧
      after.roster.link? ⟨1⟩ = some link ∧ link.state = .connected ∧
      ∀ later, .connect ⟨1⟩ ∉ station.reported (.call (.poll 0) :: later) := by
  intro station
  have sound : station.roster.Sound := sound_of_history _ interrupted
  have failed : (takeBatch 0 station).1.failure =
      some (.receiveFailed "operation interrupted") := by
    decide +kernel
  have linked : (takeBatch 0 station).2.roster.link? ⟨1⟩ =
      some { address := { ip := .v4 0x7f000001, port := 4000 }, channels := 1,
             state := .connected } := by
    decide +kernel
  have generated : .connect ⟨1⟩ ∈ (takeBatch 0 station).1.events := by decide +kernel
  have answered : poll 0 station =
      .error (.receiveFailed "operation interrupted") (takeBatch 0 station).2 := by
    rw [poll_eq_answer, Batch.answer_of_failure_eq_some failed]
  exact ⟨_, _, _, answered, linked, rfl,
    not_mem_reported_of_failed sound failed generated trivial⟩

end Courier.Datagram.Station
