import Courier.Proofs.Client.History
import Courier.Proofs.Peering

namespace Courier

/-! Whatever becomes of a server and of a client: all that they do, and all that happens to what
they stand on. The settings they began with stay. -/

namespace Server

variable {π τ κ : Type} [PacketType π] [Transport τ]

/-- A server moves on by what it does, and by what happens to its transport and its users from
outside. -/
inductive Advance : Server π τ κ → Server π τ κ → Prop
  | strode {before after : Server π τ κ} (stride : Stride before after) : Advance before after
  | elsewhere {before : Server π τ κ} (transport : τ) (users : UserTable) :
      Advance before { before.onNode (·.withTransport transport) with users }

abbrev Advances : Server π τ κ → Server π τ κ → Prop :=
  Relation.ReflTransGen Advance

/-- The settings are what the server was built with. -/
theorem settings_of_advances {built now : Server π τ κ} (advances : Advances built now) :
    now.config = built.config ∧ now.registry = built.registry := by
  have having : now.Having fun node =>
      node.config = built.config ∧ node.registry = built.registry := by
    induction advances with
    | refl => exact ⟨rfl, rfl⟩
    | tail _ last ih =>
        cases last with
        | strode stride => exact ih.stride (Node.lasting_settings _ _) stride
        | elsewhere transport users => exact ih
  exact having

theorem advances_handleAll (events : List RawEvent) (server : Server π τ κ) :
    Advances server (server.handleAll events) := by
  induction events generalizing server with
  | nil => exact .refl
  | cons event rest ih => exact .head (.strode (.handled event)) (ih (server.handle event))

variable [Interruptible τ]

theorem advances_await (timeout : Nat) (server : Server π τ κ) :
    Advances server (attempt (await timeout) server) := by
  let asked := server.onNode (·.record [.called (.poll timeout)])
  let transport := attempt (Interruptible.await timeout) server.transport
  have waited : attempt (await timeout) server =
      { asked.onNode (·.withTransport transport) with users := asked.users } := by
    rw [await, attempt_asNode]
    simp only [attempt, Node.perform, transport]
    cases Interruptible.await timeout server.transport <;> rfl
  rw [waited]
  exact (Relation.ReflTransGen.single (.strode (.recorded _))).tail (.elsewhere transport _)

theorem advance_sleep (server : Server π τ κ) (time : Nat) : Advance server (server.sleep time) :=
  .elsewhere (Interruptible.sleep time server.transport) server.users

theorem advances_runUntil (rounds : Nat) (server : Server π τ κ) :
    Advances server (attempt (runUntil rounds) server) := by
  induction rounds generalizing server with
  | zero => exact .refl
  | succ rounds ih =>
      have goesOn {after : Server π τ κ} (reached : Advances server after)
          (same : runUntil (rounds + 1) server = runUntil rounds after) :
          Advances server (attempt (runUntil (rounds + 1)) server) := by
        rw [attempt_congr same]
        exact reached.trans (ih after)
      have waited := advances_await server.pollTimeout server
      cases running : server.running with
      | false =>
          simp only [attempt, runUntil, running]
          exact .refl
      | true =>
          cases awaited : await server.pollTimeout server with
          | ok received after =>
              rw [attempt, awaited] at waited
              cases received with
              | none =>
                  simp only [attempt, runUntil, running, awaited]
                  exact waited.tail (.strode .shutdown)
              | some events =>
                  refine goesOn (waited.trans (advances_handleAll events after)) ?_
                  simp only [runUntil, running, awaited]
                  rfl
          | error error after =>
              rw [attempt, awaited] at waited
              cases fatal : isFatal error with
              | true =>
                  simp only [attempt, runUntil, running, awaited, fatal]
                  exact waited
              | false =>
                  refine goesOn (waited.tail (advance_sleep after after.pollTimeout)) ?_
                  simp only [runUntil, running, awaited, fatal]
                  rfl

end Server

namespace Client

variable {π τ κ : Type} [PacketType π] [Transport τ]

inductive Advance : Client π τ κ → Client π τ κ → Prop
  | strode {before after : Client π τ κ} (stride : Stride before after) : Advance before after
  | elsewhere {before : Client π τ κ} (transport : τ) :
      Advance before (before.onNode (·.withTransport transport))

abbrev Advances : Client π τ κ → Client π τ κ → Prop :=
  Relation.ReflTransGen Advance

/-- There is one server, from the beginning. -/
theorem server_of_stride {before after : Client π τ κ} (stride : Stride before after) :
    after.server = before.server := by
  have blind : Node.IgnoresSending fun _ : Node π τ κ => () :=
    ⟨fun _ _ => rfl, fun _ _ _ _ _ => rfl⟩
  cases stride with
  | poll =>
      cases polled : Node.poll before.toNode with
      | ok events node =>
          rw [attempt_poll_of_receive polled]
          exact server_handleAll events _
      | error error node => rw [attempt_poll_of_error polled]
  | send packet => exact congrArg Prod.fst (blind.clientSend packet before)
  | sendBytes data => exact congrArg Prod.fst (blind.clientSendBytes data before)
  | disconnect => exact (disconnect_cases before).1
  | drained => rw [attempt_asNode]
  | handled event => exact server_handleAll [event] before
  | recorded acts => rfl
  | delivered outgoing => exact congrArg Prod.fst (blind.clientDeliver [outgoing] before)

theorem settings_of_advances {asked now : Client π τ κ} (advances : Advances asked now) :
    now.config = asked.config ∧ now.server = asked.server := by
  have having : now.Having (fun node =>
      node.config = asked.config ∧ node.registry = asked.registry) ∧
        now.server = asked.server := by
    induction advances with
    | refl => exact ⟨⟨rfl, rfl⟩, rfl⟩
    | tail _ last ih =>
        obtain ⟨settings, server⟩ := ih
        cases last with
        | strode stride =>
            exact ⟨settings.stride (Node.lasting_settings _ _) stride,
              (server_of_stride stride).trans server⟩
        | elsewhere transport => exact ⟨settings, server⟩
  exact ⟨having.1.1, having.2⟩

end Client

end Courier
