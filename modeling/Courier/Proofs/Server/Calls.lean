import Courier.Proofs.Action
import Courier.Server

namespace Courier

/-! What the calls of a server come to, whatever its transport is. -/

theorem Node.of_check_eq_ok {π τ κ : Type} {node after : Node π τ κ} {value : Unit}
    (checked : check node = .ok value after) :
    node.config.validate = .ok () ∧ after = node := by
  unfold check at checked
  split at checked
  · next valid =>
    cases checked
    exact ⟨valid, rfl⟩
  · cases checked

/-- Whether it succeeds or fails, a call is recorded, and does what it does to the transport. -/
theorem Node.attempt_call {π τ κ : Type} [Transport τ] (call : TransportCall) (node : Node π τ κ) :
    attempt (Node.call call) node =
      (node.record [.called call]).withTransport (attempt call.run node.transport) := by
  simp only [attempt, Node.call, perform]
  cases call.run node.transport <;> rfl

theorem Node.transport_call {π τ κ : Type} [Transport τ] (call : TransportCall)
    (node : Node π τ κ) :
    (attempt (Node.call call) node).transport = attempt call.run node.transport :=
  congrArg Node.transport (attempt_call call node)

theorem Node.of_call_eq_ok {π τ κ : Type} [Transport τ] {call : TransportCall}
    {node after : Node π τ κ} {answer : call.Answer}
    (called : Node.call call node = .ok answer after) :
    call.run node.transport = .ok answer after.transport ∧ after.config = node.config ∧
      after.registry = node.registry := by
  simp only [Node.call, perform] at called
  cases ran : call.run node.transport with
  | ok value transport =>
      rw [ran] at called
      cases called
      exact ⟨rfl, rfl, rfl⟩
  | error error transport =>
      rw [ran] at called
      cases called

theorem Node.of_call_eq_error {π τ κ : Type} [Transport τ] {call : TransportCall}
    {node after : Node π τ κ} {error : Error} (failed : Node.call call node = .error error after) :
    ∃ reason, call.run node.transport = .error reason after.transport ∧
      error = .transport reason ∧ after.config = node.config := by
  simp only [Node.call, perform] at failed
  cases ran : call.run node.transport with
  | ok value transport =>
      rw [ran] at failed
      cases failed
  | error reason transport =>
      rw [ran] at failed
      cases failed
      exact ⟨reason, rfl, rfl, rfl⟩

theorem Node.of_poll_eq_ok {π τ κ : Type} [Transport τ] {node after : Node π τ κ}
    {events : List RawEvent} (polled : poll node = .ok events after) :
    Transport.poll node.pollTimeout node.transport = .ok events after.transport :=
  have called : Node.call (.poll node.pollTimeout) node = .ok events after := polled
  (of_call_eq_ok called).1

theorem Node.of_poll_eq_error {π τ κ : Type} [Transport τ] {node after : Node π τ κ}
    {error : Error} (failed : poll node = .error error after) :
    ∃ reason, Transport.poll node.pollTimeout node.transport =
      .error reason after.transport := by
  have called : Node.call (.poll node.pollTimeout) node = .error error after := failed
  obtain ⟨reason, ran, -⟩ := of_call_eq_error called
  exact ⟨reason, ran⟩

theorem Node.keeps_poll {π τ κ : Type} [Transport τ] {view : Node π τ κ → α}
    (kept : ∀ call : TransportCall, Keeps view (Node.call call)) : Keeps view Node.poll :=
  Keeps.get.bind fun node => kept (.poll node.pollTimeout)

namespace Server

variable {π τ κ : Type} [Transport τ]

/-- What is built has a usable configuration, a transport that was started, and a host. -/
theorem of_build_eq_ok {node fresh : Node π τ κ} {built : Server π τ κ}
    (started : build node = .ok built fresh) :
    built = ofNode fresh ∧ node.config.validate = .ok () ∧
      ∃ ready : Node π τ κ, Node.call .start node = .ok () ready ∧
        Node.call (.createServer ready.config.host ready.config.port ready.config.channels
          ready.config.maxPeers.toNat) ready = .ok () fresh := by
  obtain ⟨_, checked, sound, starting⟩ := of_bind_eq_ok started
  obtain ⟨_, ready, begun, reading⟩ := of_bind_eq_ok starting
  obtain ⟨_, _, same, creating⟩ := of_bind_eq_ok reading
  cases same
  obtain ⟨_, hosting, created, ending⟩ := of_bind_eq_ok creating
  obtain ⟨_, _, same, made⟩ := of_bind_eq_ok ending
  cases same
  cases made
  obtain ⟨valid, rfl⟩ := Node.of_check_eq_ok sound
  exact ⟨rfl, valid, ready, begun, created⟩

theorem attempt_kick_of_peer_eq_error {server : Server π τ κ} {user : UserId}
    {error : SessionError} (vacant : server.users.peer user = .error error) :
    attempt (kick user) server = server := by
  simp only [attempt, kick, Bind.bind, EStateM.bind, peerOf, vacant]

/-- The id is free before the peer is sent away, and whatever comes of that, the peer is told to
have left. -/
theorem attempt_kick_of_peer_eq_ok {server : Server π τ κ} {user : UserId} {peer : PeerHandle}
    (held : server.users.peer user = .ok peer) :
    attempt (kick user) server =
      { server.refuse peer with users := (server.users.release user).2 }.fire .disconnect
        { peer, user := some user } := by
  simp only [attempt, kick, Bind.bind, EStateM.bind, peerOf, held]
  rfl

theorem join_of_seated {server : Server π τ κ} {peer : PeerHandle} {user : UserId}
    {users : UserTable} (seated : server.users.acquire peer = (.ok user, users)) :
    server.join peer = { server with users }.fire .connect { peer, user := some user } := by
  simp only [join, seated]

theorem join_of_known {server : Server π τ κ} {peer : PeerHandle} {user : UserId}
    {users : UserTable}
    (known : server.users.acquire peer = (.error (.alreadyAcquired user), users)) :
    server.join peer = server := by
  simp only [join, known]

theorem join_of_exhausted {server : Server π τ κ} {peer : PeerHandle} {capacity : Nat}
    {users : UserTable}
    (exhausted : server.users.acquire peer = (.error (.exhausted capacity), users)) :
    server.join peer = server.refuse peer := by
  simp only [join, exhausted]

variable [PacketType π]

theorem sendTo_of_peer_eq_error {server : Server π τ κ} {user : UserId} {error : SessionError}
    (vacant : server.users.peer user = .error error) (packet : π) :
    sendTo user packet server = .error (.session error) server := by
  simp only [sendTo, Bind.bind, EStateM.bind, peerOf, vacant]

theorem sendTo_of_peer_eq_ok {server : Server π τ κ} {user : UserId} {peer : PeerHandle}
    (held : server.users.peer user = .ok peer) (packet : π) :
    sendTo user packet server = sendToPeer peer packet server := by
  simp only [sendTo, Bind.bind, EStateM.bind, peerOf, held]

theorem poll_of_receive {server : Server π τ κ} {events : List RawEvent} {node : Node π τ κ}
    (received : Node.poll server.toNode = .ok events node) :
    poll server = .ok events.length (handleAll { server with toNode := node } events) := by
  simp only [poll, Bind.bind, EStateM.bind, asNode, received]
  rfl

theorem attempt_poll_of_error {server : Server π τ κ} {error : Error} {node : Node π τ κ}
    (failed : Node.poll server.toNode = .error error node) :
    attempt poll server = { server with toNode := node } := by
  simp only [attempt, poll, Bind.bind, EStateM.bind, asNode, failed]

/-- A poll that fails handles nothing. -/
theorem exists_attempt_poll_eq (server : Server π τ κ) :
    ∃ events, attempt poll server = (attempt (asNode Node.poll) server).handleAll events := by
  simp only [attempt, poll, Bind.bind, EStateM.bind]
  cases asNode Node.poll server with
  | ok events after => exact ⟨events, rfl⟩
  | error error after => exact ⟨[], rfl⟩

end Server

end Courier
