import Courier.Proofs.Chat.Printing
import Courier.Proofs.Chat.Relaying

namespace Courier

open Datagram

/-- How far a client has got with the letters of the server: it has read some of them, the others
are ahead. It reads them in their order from the answer to its request on. What it hears of the
relays that are in them is all it has read, until it leaves or is sent away. -/
inductive Listening (server : PeerHandle) (letters ahead : List Frame) :
    Option (PeerHandle × Link) → List Relay → Prop
  | waiting {link : Link} (waits : link.state = .connecting) (unread : letters = ahead) :
      Listening server letters ahead (some (server, link)) []
  | joined {read : List Frame} {link : Link} (connected : link.state = .connected)
      (split : letters = read ++ ahead) :
      Listening server letters ahead (some (server, link)) (relaysIn read)
  | parted {heard : List Relay} (got : heard <+: relaysIn letters) :
      Listening server letters ahead none heard

namespace Listening

variable {server : PeerHandle} {letters ahead : List Frame} {address : SocketAddress}
  {facing : Option (PeerHandle × Link)} {relays : List Relay} {agreement : Agreement}
  {own : UInt8} {before after : Dealings} {events : List RawEvent}

theorem got (listening : Listening server letters ahead facing relays) :
    relays <+: relaysIn letters := by
  cases listening with
  | waiting => exact List.nil_prefix
  | joined connected split =>
      rw [split, relaysIn_append]
      exact List.prefix_append _ _
  | parted got => exact got

/-- With nothing ahead of it, a client has heard all. -/
theorem all (listening : Listening server letters [] facing relays) (linked : facing ≠ none) :
    relays = relaysIn letters := by
  cases listening with
  | waiting waits unread => rw [unread]; rfl
  | joined connected split => rw [split, List.append_nil]
  | parted => exact absurd rfl linked

theorem written (listening : Listening server letters ahead facing relays) (more : List Frame) :
    Listening server (letters ++ more) (ahead ++ more) facing relays := by
  cases listening with
  | waiting waits unread => exact .waiting waits (congrArg (· ++ more) unread)
  | joined connected split =>
      exact .joined connected (by rw [split, List.append_assoc])
  | parted got =>
      refine .parted (got.trans ?_)
      rw [relaysIn_append]
      exact List.prefix_append _ _

/-- Nothing that the server writes is passed over. -/
theorem heard {frame : Frame}
    (listening : Listening server letters (frame :: ahead) before.facing relays)
    (greeted : letters ≠ [] → Greeted letters) (kept : agreement.Kept .client before)
    (speaks : agreement.Speaks .server frame)
    (hears : Heard .client own address frame before events after) :
    Listening server letters ahead after.facing
      (relays ++ relaysOf server ChatPacket.clientRegistry events) := by
  obtain ⟨facing, wrote⟩ := before
  cases listening with
  | waiting waits unread =>
      cases hears with
      | unanswered => exact speaks.elim
      | again => exact speaks.elim
      | established granted =>
          have split : letters = [.accept granted] ++ ahead := unread
          exact .joined rfl split
      | settled granted connected =>
          rw [waits] at connected
          cases connected
      | left => exact .parted List.nil_prefix
      | received flags data connected =>
          rw [waits] at connected
          cases connected
      | @dropped _ _ _ channel flags data =>
          obtain ⟨first, rest, split, answer⟩ := greeted (by simp [unread])
          rw [unread] at split
          cases split
          exact absurd rfl (answer channel flags data)
  | @joined read link connected split =>
      have further : letters = read ++ [frame] ++ ahead := by
        rw [split, List.append_assoc]
        rfl
      have reads (same : relaysIn (read ++ [frame]) =
          relaysIn read ++ relaysOf server ChatPacket.clientRegistry events) :
          Listening server letters ahead (some (server, link))
            (relaysIn read ++ relaysOf server ChatPacket.clientRegistry events) :=
        same ▸ .joined connected further
      cases hears with
      | unanswered => exact speaks.elim
      | again => exact speaks.elim
      | established granted waiting =>
          rw [connected] at waiting
          cases waiting
      | settled => exact reads (relaysIn_append _ _)
      | left =>
          refine .parted ?_
          rw [split, relaysIn_append]
          exact (List.append_nil (relaysIn read)).symm ▸ List.prefix_append _ _
      | @received _ _ _ channel flags data =>
          refine reads ((relaysIn_append _ _).trans (congrArg (relaysIn read ++ ·) ?_))
          simp [relaysIn, relaysOf, Frame.relay?, RawEvent.relay?, List.filterMap_cons]
      | dropped flags data closed =>
          have channels := (kept.fits rfl).channels_eq connected
          exact absurd ⟨connected, channels ▸ speaks⟩ closed
  | parted got =>
      cases hears with
      | admitted peer requested serving => cases serving
      | refused requested serving => cases serving
      | unanswered => exact speaks.elim
      | stray => exact .parted ((List.append_nil relays).symm ▸ got)

theorem hears {frames : List Frame}
    (listening : Listening server letters (frames ++ ahead) before.facing relays)
    (greeted : letters ≠ [] → Greeted letters) (kept : agreement.Kept .client before)
    (speaks : ∀ frame ∈ frames, agreement.Speaks .server frame)
    (hears : Hears .client own address frames before events after) :
    Listening server letters ahead after.facing
      (relays ++ relaysOf server ChatPacket.clientRegistry events) := by
  induction hears generalizing relays with
  | done => exact (List.append_nil relays).symm ▸ listening
  | heard first rest ih =>
      have spoken := speaks _ List.mem_cons_self
      have next := listening.heard greeted kept spoken first
      rw [relaysOf, List.filterMap_append, ← List.append_assoc]
      refine ih next (kept.heard ?_ spoken first)
        fun frame mem => speaks frame (List.mem_cons_of_mem _ mem)
      rintro ⟨⟩
  | elsewhere others quiet rest ih =>
      rw [quiet rfl, List.nil_append]
      exact ih listening kept speaks

end Listening

namespace Client

variable {κ : Type}

/-- A call of a client, whether it succeeds or fails. -/
inductive Works : Client ChatPacket (Station Interface) κ →
    Client ChatPacket (Station Interface) κ → Prop
  | poll {client : Client ChatPacket (Station Interface) κ} : Works client (attempt poll client)
  | send {client : Client ChatPacket (Station Interface) κ} (packet : ChatPacket) :
      Works client (attempt (send packet) client)
  | sendBytes {client : Client ChatPacket (Station Interface) κ} (data : Bytes) :
      Works client (attempt (sendBytes data) client)
  | disconnect {client : Client ChatPacket (Station Interface) κ} :
      Works client (attempt disconnect client)

theorem Works.stride {client after : Client ChatPacket (Station Interface) κ}
    (works : Works client after) : Stride client after := by
  cases works with
  | poll => exact .poll
  | send packet => exact .send packet
  | sendBytes data => exact .sendBytes data
  | disconnect => exact .disconnect

/-- The links of a client, and what has arrived. -/
def bearings (client : Client ChatPacket (Station Interface) κ) :
    PeerHandle × Roster × List Receipt :=
  client.withServer fun node => (node.roster, node.inbox)

theorem ignoresSending_bearings :
    Node.IgnoresSending fun node : Node ChatPacket (Station Interface) κ =>
      (node.roster, node.inbox) :=
  Node.ignoresSending_roster.prod Node.ignoresSending_inbox

theorem bearings_handleAll (client : Client ChatPacket (Station Interface) κ)
    (events : List RawEvent) : (events.foldl handle client).bearings = client.bearings :=
  withServer_handleAll ignoresSending_bearings (fun _ _ => rfl) events client

/-- A client that has read some of the letters, with the others ahead of it: those that have
arrived, and those that are still on their way. What it has processed is what it has heard. -/
def Listens (address : SocketAddress) (letters away : List Frame)
    (client : Client ChatPacket (Station Interface) κ) : Prop :=
  Listening client.server letters (client.transport.incoming address ++ away)
    (client.transport.dealings address).facing client.relays

namespace Listens

variable {address : SocketAddress} {letters away : List Frame}
  {client after : Client ChatPacket (Station Interface) κ} {agreement : Agreement}
  {config : Config}

theorem congr {relays : List Relay}
    (listening : Listening client.server letters (client.transport.incoming address ++ away)
      (client.transport.dealings address).facing relays)
    (same : after.bearings = client.bearings) (processed : after.relays = relays) :
    after.Listens address letters away := by
  obtain ⟨server, rest⟩ := Prod.mk.inj same
  obtain ⟨roster, inbox⟩ := Prod.mk.inj rest
  have facing : (after.transport.dealings address).facing =
      (client.transport.dealings address).facing :=
    congrArg (fun roster : Roster => roster.host.bind (·.facing? address)) roster
  have incoming : after.transport.incoming address = client.transport.incoming address :=
    congrArg (List.filterMap (Station.frameOf? address)) inbox
  rw [Listens, server, facing, incoming, processed]
  exact listening

theorem poll (listens : client.Listens address letters away)
    (party : agreement.Party .client config.channels address client.transport)
    (registry : client.registry = ChatPacket.clientRegistry)
    (calm : client.transport.Calm) (greeted : letters ≠ [] → Greeted letters) :
    (attempt Client.poll client).Listens address letters away := by
  cases polled : Node.poll client.toNode with
  | ok events node =>
      obtain ⟨told, left⟩ := Station.takeBatch_of_poll (Node.of_poll_eq_ok polled)
      obtain ⟨-, taken, split, hears⟩ := party.attending.taken client.pollTimeout
      rw [told, left] at hears
      rw [left] at split
      have arrived : client.transport.incoming address =
          taken.filterMap (Station.frameOf? address) ++ node.transport.incoming address := by
        rw [Station.incoming, split, List.filterMap_append]
        rfl
      have speaks := party.hears
      rw [Listens, arrived, List.append_assoc] at listens
      rw [split, List.filterMap_append] at speaks
      have read := listens.hears greeted party.kept
        (fun frame mem => speaks frame (List.mem_append_left _ mem)) hears
      have processed := relays_poll_of_receive polled
      rw [registry, attempt_poll_of_receive polled] at processed
      rw [attempt_poll_of_receive polled]
      refine congr ?_ (bearings_handleAll { client with toNode := node } events) processed
      exact read
  | error error node =>
      obtain ⟨reason, failed⟩ := Node.of_poll_eq_error polled
      have same := Station.eq_of_poll_eq_error calm failed
      have processed := relays_poll_of_error polled
      rw [attempt_poll_of_error polled] at processed ⊢
      rw [Listens, processed]
      dsimp only
      rw [same]
      exact listens

theorem disconnect (listens : client.Listens address letters away)
    (attending : client.transport.Attending .client config.channels address) :
    (attempt Client.disconnect client).Listens address letters away := by
  obtain ⟨server, -, outcome⟩ := disconnect_cases client
  obtain ⟨-, inbox, acts⟩ := attending.disconnect
  rw [Listens, relays_disconnect, server]
  rcases outcome with ⟨-, same⟩ | ⟨-, left | stopped⟩
  · rw [same]
    exact listens
  · have left : (attempt Client.disconnect client).transport =
        attempt Station.disconnect client.transport := left
    have incoming : (attempt Station.disconnect client.transport).incoming address =
        client.transport.incoming address :=
      congrArg (List.filterMap (Station.frameOf? address)) inbox
    rw [left, incoming]
    rcases Acted.facing_of_acts acts with same | nobody
    · rw [same]
      exact listens
    · rw [nobody]
      exact .parted (Listening.got listens)
  · have stopped : (attempt Client.disconnect client).transport =
        (attempt Station.disconnect client.transport).stop := stopped
    rw [stopped, Station.facing_of_vacant (congrArg Roster.host (Station.roster_stop _))]
    exact .parted (Listening.got listens)

theorem works (works : Works client after)
    (keeps : client.Having (Peering.Keeps agreement .client address config
      ChatPacket.clientRegistry))
    (calm : client.transport.Calm) (greeted : letters ≠ [] → Greeted letters)
    (listens : client.Listens address letters away) : after.Listens address letters away := by
  obtain ⟨party, -, registry⟩ := keeps
  cases works with
  | poll => exact listens.poll party registry calm greeted
  | send packet =>
      exact congr listens (ignoresSending_bearings.clientSend packet client)
        (relays_send packet client)
  | sendBytes data =>
      exact congr listens (ignoresSending_bearings.clientSendBytes data client)
        (relays_sendBytes data client)
  | disconnect => exact listens.disconnect party.attending

end Listens

end Client

end Courier
