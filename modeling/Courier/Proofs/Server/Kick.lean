import Courier.Proofs.Server.Messages
import Courier.Proofs.Server.Shutdown

namespace Courier

open Datagram

/-- In a batch nothing is told of a peer after it has left. -/
theorem Datagram.Drained.silent_of_disconnect {before after : Roster} {events : List RawEvent}
    (sound : before.Sound) (drained : Drained before events after) (peer : PeerHandle) :
    events.Pairwise fun first later => first = .disconnect peer → later.peer ≠ peer := by
  induction drained with
  | done => exact .nil
  | @more source before middle after events later applied rest ih =>
      refine List.pairwise_append.mpr ⟨?_, ih (sound.applied applied), ?_⟩
      · match events, applied.length_events_le with
        | [], _ => exact .nil
        | [event], _ => exact List.pairwise_singleton _ _
      · rintro event mem other afterwards rfl
        have gone : middle.Gone peer := Roster.spent_of_mem_applied sound applied mem trivial
        exact gone.unnamed_of_drained (sound.applied applied) rest other afterwards

namespace UserTable

theorem peer_eq (table : UserTable) (user : UserId) :
    table.peer user =
      match table.slot? user with
      | some (some peer) => .ok peer
      | some none => .error (.vacant user)
      | none => .error (.outOfRange user table.capacity) :=
  rfl

theorem peer_vacate {table : UserTable} {user : UserId} (inside : user.index < table.capacity)
    (peer : PeerHandle) (other : UserId) :
    (table.vacate user peer).peer other =
      if user = other then .error (.vacant other) else table.peer other := by
  rw [peer_eq, slot?_vacate inside, capacity_vacate, peer_eq]
  by_cases same : user = other
  · simp only [if_pos same]
  · simp only [if_neg same]

/-- There are two reasons why nobody has an id. -/
theorem Consistent.peer_eq_error {table : UserTable} {user : UserId}
    (consistent : table.Consistent) (unheld : ∀ peer, table.user? peer ≠ some user) :
    table.peer user = .error
      (if user.index < table.capacity then .vacant user else .outOfRange user table.capacity) := by
  have inside := table.exists_slot?_iff user
  rw [peer_eq]
  cases slot : table.slot? user with
  | none =>
      rw [if_neg]
      intro below
      obtain ⟨holder, found⟩ := inside.mpr below
      cases slot.symm.trans found
  | some holder =>
      cases holder with
      | none => rw [if_pos (inside.mp ⟨none, slot⟩)]
      | some peer => exact absurd ((consistent.user?_eq_some_iff peer user).mpr slot) (unheld peer)

end UserTable

namespace Server

/-- Whoever the application has been told has left is parted from, so that it is told so once. -/
def Reported (peer : PeerHandle) (notices : List Notice) : Prop :=
  ∃ notice ∈ notices, notice.1 = .disconnect ∧ notice.2.peer = peer

theorem reported_append (peer : PeerHandle) (earlier later : List Notice) :
    Reported peer (earlier ++ later) ↔ Reported peer earlier ∨ Reported peer later := by
  simp only [Reported, List.mem_append, or_and_right, exists_or]

theorem filter_of_unreported {peer : PeerHandle} {notices : List Notice}
    (unreported : ¬ Reported peer notices) :
    notices.filter (fun notice => notice.1 = .disconnect ∧ notice.2.peer = peer) = [] := by
  rw [List.filter_eq_nil_iff]
  intro notice mem leaves
  exact unreported ⟨notice, mem, of_decide_eq_true leaves⟩

namespace Standing

theorem Parted.kicked {before : Standing} {user : UserId} {peer : PeerHandle} {capacity : Nat}
    (numbered : before.Numbered peer) (orderly : before.Orderly capacity)
    (held : before.users.user? peer = some user) (notices : List Notice) :
    Parted
      { before with
        users := (before.users.release user).2
        roster := before.roster.remove peer
        notices } peer where
  gone := ⟨numbered held, by rw [Roster.link?_removed, if_pos rfl]⟩
  seatless := by
    rw [orderly.consistent.release_of_user? held, UserTable.user?_vacate, if_pos rfl]

/-- What has been noticed since is true of the peer, as far as its leaving goes. -/
def Faithful (earlier : List Notice) (peer : PeerHandle) (standing : Standing) : Prop :=
  ∃ since, standing.notices = earlier ++ since ∧ (Reported peer since → standing.Parted peer)

namespace Faithful

variable {before after : Standing} {earlier since : List Notice} {peer : PeerHandle}
  {capacity : Nat}

theorem of_unreported (same : before.notices = earlier ++ since)
    (unreported : ¬ Reported peer since) : before.Faithful earlier peer :=
  ⟨since, same, fun reported => absurd reported unreported⟩

theorem of_parted {more : List Notice} (same : before.notices = earlier ++ since)
    (appended : after.notices = before.notices ++ more) (parted : after.Parted peer) :
    after.Faithful earlier peer :=
  ⟨since ++ more, by rw [appended, same, List.append_assoc], fun _ => parted⟩

/-- The first event that tells of the leaving of a peer is the last one that names it. -/
theorem handled {events : List RawEvent} (handled : Handled before events after)
    (orderly : before.Orderly capacity) (same : before.notices = earlier ++ since)
    (unreported : ¬ Reported peer since)
    (silent : events.Pairwise fun first later => first = .disconnect peer → later.peer ≠ peer)
    (gone : .disconnect peer ∈ events → before.roster.Gone peer) :
    after.Faithful earlier peer := by
  induction handled generalizing since with
  | done => exact of_unreported same unreported
  | @more standing after event later users roster notices told own rest ih =>
      obtain ⟨others, silent⟩ := List.pairwise_cons.mp silent
      have appended : standing.notices ++ notices = earlier ++ (since ++ notices) := by
        rw [same, List.append_assoc]
      have next := orderly.told told (standing.notices ++ notices)
      -- Until the peer leaves nothing reports it; from then on it is parted from and not named.
      by_cases leaves : event = .disconnect peer
      · subst leaves
        have left := gone List.mem_cons_self
        have parted : Parted
            { standing with users, roster, notices := standing.notices ++ notices } peer := by
          cases told with
          | left =>
              refine ⟨left, ?_⟩
              rw [orderly.consistent.user?_releasePeer, if_pos rfl]
        obtain ⟨still, more, told, -⟩ := parted.handled next (others · · rfl) rest
        exact of_parted appended told still
      · refine ih next appended ?_ silent ?_
        · rw [reported_append, not_or]
          refine ⟨unreported, ?_⟩
          rintro ⟨notice, mem, kind, named⟩
          obtain ⟨sameKind, samePeer⟩ := own notice mem
          rw [kind] at sameKind
          rw [named] at samePeer
          cases event with
          | disconnect other => exact leaves (congrArg RawEvent.disconnect samePeer.symm)
          | _ => cases sameKind
        · intro mem
          have left := gone (List.mem_cons_of_mem _ mem)
          rcases told.roster_cases with rfl | rfl
          · exact left
          · exact Parted.removed left _

theorem turned {π ν : Type} {input : ServerInput π ν} {told : List RawEvent}
    (faithful : before.Faithful earlier peer) (numbered : before.Numbered peer)
    (orderly : before.Orderly capacity) (turned : Turned input before told after)
    (other : input ≠ .shared (.acquire peer)) : after.Faithful earlier peer := by
  obtain ⟨since, same, truly⟩ := faithful
  by_cases reported : Reported peer since
  · obtain ⟨still, ⟨more, appended, -⟩, -⟩ := (truly reported).turned orderly turned other
    exact of_parted same appended still
  · cases turned with
    | @polled _ _ events _ roster drained some handled =>
        refine Faithful.handled handled (orderly.drained drained) same reported ?_ ?_
        · exact (drained.silent_of_disconnect orderly.sound peer).sublist some
        · intro mem
          exact Roster.spent_of_mem_drained orderly.sound drained (some.subset mem) trivial
    | @kicked _ user third notices held own =>
        have seated := orderly.consistent.peer_eq_ok_iff.mp held
        by_cases kicked : third = peer
        · subst kicked
          exact of_parted same rfl (.kicked numbered orderly seated _)
        · have appended : before.notices ++ notices = earlier ++ (since ++ notices) := by
            rw [same, List.append_assoc]
          refine of_unreported appended ?_
          rw [reported_append, not_or]
          refine ⟨reported, ?_⟩
          rintro ⟨notice, mem, -, named⟩
          exact kicked ((own notice mem).symm.trans named)
    | _ => exact of_unreported same reported

end Faithful

end Standing

section

variable {π τ κ : Type} [Transport τ]

theorem kick_of_peer_eq_error {server : Server π τ κ} {user : UserId} {error : SessionError}
    (vacant : server.users.peer user = .error error) :
    kick user server = .error (.session error) server := by
  simp only [kick, Bind.bind, EStateM.bind, peerOf, vacant]

theorem kick_of_peer_eq_ok {server : Server π τ κ} {user : UserId} {peer : PeerHandle}
    (held : server.users.peer user = .ok peer) :
    kick user server = .ok () (attempt (kick user) server) := by
  simp only [attempt, kick, Bind.bind, EStateM.bind, peerOf, held]
  rfl

end

variable {π ν κ : Type} [Network ν]

theorem roster_kick {server : Server π (Station ν) κ} {user : UserId} {peer : PeerHandle}
    (held : server.users.peer user = .ok peer) :
    (attempt (kick user) server).toNode.roster = server.toNode.roster.remove peer := by
  rw [attempt_kick_of_peer_eq_ok held]
  exact congrArg Standing.roster (standing_refuse server peer)

/-- One user is sent away, and nobody else. -/
structure Dismissed (user : UserId) (peer : PeerHandle) (before after : Server π (Station ν) κ) :
    Prop where
  vacant : after.users.peer user = .error (.vacant user)
  free : user ∈ after.users.free
  seatless : after.users.user? peer = none
  unlinked : after.toNode.roster.link? peer = none
  holders : ∀ other, other ≠ user → after.users.peer other = before.users.peer other
  users : ∀ other, other ≠ peer → after.users.user? other = before.users.user? other
  links : ∀ other, other ≠ peer →
    after.toNode.roster.link? other = before.toNode.roster.link? other
  running : after.running = before.running
  network : ∀ host, before.transport.endpoint.host = some host →
    after.transport.process.network =
      sendFarewells host.socket (host.addressesOf [peer]) before.transport.process.network
  acts : after.acts = before.acts ++ .called (.disconnectPeer peer) ::
    before.handlers.onDisconnect.toList.map fun callback =>
      .ran .disconnect callback { peer, user := some user }

theorem dismissed_kick {server : Server π (Station ν) κ} {user : UserId} {peer : PeerHandle}
    {capacity : Nat} (orderly : server.standing.Orderly capacity)
    (held : server.users.user? peer = some user) :
    Dismissed user peer server (attempt (kick user) server) := by
  have seated : server.users.peer user = .ok peer := orderly.consistent.peer_eq_ok_iff.mpr held
  have slot : server.users.slot? user = some (some peer) :=
    (orderly.consistent.user?_eq_some_iff peer user).mp held
  have inside := UserTable.lt_capacity_of_slot? slot
  have roster := roster_kick seated
  have users : server.users.release user = (some peer, server.users.vacate user peer) :=
    orderly.consistent.release_of_user? held
  rw [attempt_kick_of_peer_eq_ok seated, users] at roster ⊢
  refine ⟨?_, ?_, ?_, ?_, ?_, ?_, ?_, rfl, ?_, ?_⟩
  · exact (UserTable.peer_vacate inside peer user).trans (if_pos rfl)
  · exact (UserTable.mem_free_vacate _ _ _ _).mpr (.inl rfl)
  · exact (UserTable.user?_vacate _ _ _ _).trans (if_pos rfl)
  · rw [roster, Roster.link?_removed, if_pos rfl]
  · intro other apart
    exact (UserTable.peer_vacate inside peer other).trans (if_neg apart.symm)
  · intro other apart
    exact (UserTable.user?_vacate _ _ _ _).trans (if_neg apart.symm)
  · intro other apart
    rw [roster, Roster.link?_removed, if_neg apart.symm]
  · intro host hosting
    have left : (server.refuse peer).transport =
        attempt (Station.disconnectPeer peer) server.transport :=
      Node.transport_call (.disconnectPeer peer) server.toNode
    change (server.refuse peer).transport.process.network = _
    rw [left, Station.attempt_disconnectPeer_eq peer hosting]
    rfl
  · have called : (server.refuse peer).acts = server.acts ++ [.called (.disconnectPeer peer)] ∧
        (server.refuse peer).handlers = server.handlers := by
      simp only [refuse, onNode, Node.attempt_call]
      exact ⟨rfl, rfl⟩
    rw [fire_eq]
    change (server.refuse peer).acts ++
      ((server.refuse peer).handlers.callback? .disconnect).toList.map _ = _
    rw [called.1, called.2, List.append_assoc]
    rfl

theorem Dismissed.notices {user : UserId} {peer : PeerHandle}
    {before after : Server π (Station ν) κ} (dismissed : Dismissed user peer before after) :
    after.toNode.notices = before.toNode.notices ++
      before.handlers.onDisconnect.toList.map
        fun _ => (.disconnect, { peer, user := some user }) := by
  rw [Node.notices, dismissed.acts, List.filterMap_append]
  apply congrArg (before.toNode.notices ++ ·)
  rw [List.filterMap_cons_none rfl, List.filterMap_map]
  cases before.handlers.onDisconnect <;> rfl

theorem notices_of_build {node fresh : Node π (Station ν) κ} {built : Server π (Station ν) κ}
    (started : build node = .ok built fresh) : built.toNode.notices = node.notices := by
  obtain ⟨rfl, -, ready, begun, created⟩ := of_build_eq_ok started
  have hosted := (Node.keeps_ledger_call _).of_eq_ok created
  have running := (Node.keeps_ledger_call _).of_eq_ok begun
  exact congrArg Prod.snd (hosted.trans running)

variable [PacketType π]

theorem faithful_after {server : Server π (Station ν) κ} {earlier : List Notice}
    {peer : PeerHandle} {capacity : Nat} (orderly : server.standing.Orderly capacity)
    (numbered : server.standing.Numbered peer) (faithful : server.standing.Faithful earlier peer)
    {history : List (ServerInput π ν)} (other : .shared (.acquire peer) ∉ history) :
    (server.after history).standing.Faithful earlier peer := by
  induction history generalizing server with
  | nil => exact faithful
  | cons input rest ih =>
      obtain ⟨now, later⟩ := List.ne_and_not_mem_of_not_mem_cons other
      have turned := server.turned_meet input
      exact ih (orderly.turned turned) (numbered.turned orderly turned now.symm)
        (faithful.turned numbered orderly turned now.symm) later

/-- Who has an id has been given a handle and has not been told of as gone. -/
theorem unreported_of_held {node fresh : Node π (Station ν) κ} {built : Server π (Station ν) κ}
    (started : build node = .ok built fresh) {history : List (ServerInput π ν)} {peer : PeerHandle}
    (untouched : .shared (.acquire peer) ∉ history) {user : UserId}
    (held : (built.after history).users.user? peer = some user) :
    peer.number < (built.after history).toNode.roster.nextPeer ∧
      ∃ told, (built.after history).toNode.notices = node.notices ++ told ∧
        ¬ Reported peer told := by
  have orderly := orderly_of_build started
  have unnumbered : built.standing.Numbered peer := fun user found => by
    cases (seatless_of_build started peer).symm.trans found
  have unnoticed : built.standing.notices = node.notices ++ [] :=
    (notices_of_build started).trans (List.append_nil _).symm
  have silent : ¬ Reported peer [] := by simp [Reported]
  obtain ⟨told, noticed, truly⟩ :=
    faithful_after orderly unnumbered (.of_unreported unnoticed silent) untouched
  refine ⟨numbered_after orderly unnumbered untouched held, told, noticed, fun reported => ?_⟩
  cases (truly reported).seatless.symm.trans held

/-- Whoever is asked to go goes, and only they do, whether or not they can be told; and unless the
application brings them back itself, they are never named again. -/
theorem kick_of_history {node fresh : Node π (Station ν) κ} {built : Server π (Station ν) κ}
    (started : build node = .ok built fresh) (history : List (ServerInput π ν)) (user : UserId) :
    let server := built.after history
    let capacity := node.config.maxUsers.toNat
    ((∃ after, kick user server = .ok () after) ↔ ∃ peer, server.users.user? peer = some user) ∧
      ((∀ peer, server.users.user? peer ≠ some user) →
        kick user server = .error (.session
          (if user.index < capacity then .vacant user else .outOfRange user capacity)) server) ∧
      ∀ peer, server.users.user? peer = some user →
        ∃ after, kick user server = .ok () after ∧ Dismissed user peer server after ∧
          ∀ later, .shared (.acquire peer) ∉ history ++ later →
            let last := after.after later
            last.users.user? peer = none ∧ last.toNode.roster.link? peer = none ∧
              (∀ event ∈ after.heard later, event.peer ≠ peer) ∧
              (∃ told, last.toNode.notices = after.toNode.notices ++ told ∧
                ∀ notice ∈ told, notice.2.peer ≠ peer) ∧
              ∃ told, last.toNode.notices = node.notices ++ told ∧
                told.filter (fun notice => notice.1 = .disconnect ∧ notice.2.peer = peer) =
                  server.handlers.onDisconnect.toList.map fun _ =>
                    (.disconnect, { peer, user := some user }) := by
  intro server capacity
  have orderly : server.standing.Orderly capacity :=
    orderly_after (orderly_of_build started) history
  have held_iff (peer : PeerHandle) :
      server.users.peer user = .ok peer ↔ server.users.user? peer = some user :=
    orderly.consistent.peer_eq_ok_iff
  have refused (unheld : ∀ peer, server.users.user? peer ≠ some user) :
      kick user server = .error (.session
        (if user.index < capacity then .vacant user else .outOfRange user capacity)) server := by
    rw [← orderly.capacity_eq]
    exact kick_of_peer_eq_error (orderly.consistent.peer_eq_error unheld)
  refine ⟨?_, refused, ?_⟩
  · constructor
    · rintro ⟨after, kicked⟩
      by_contra unheld
      cases (refused (not_exists.mp unheld)).symm.trans kicked
    · rintro ⟨peer, held⟩
      exact ⟨_, kick_of_peer_eq_ok ((held_iff peer).mpr held)⟩
  · intro peer held
    have seated := (held_iff peer).mpr held
    have dismissed := dismissed_kick orderly held
    refine ⟨_, kick_of_peer_eq_ok seated, dismissed, fun later own => ?_⟩
    obtain ⟨untouched, left⟩ := not_or.mp (List.mem_append.not.mp own)
    obtain ⟨taken, earlier, noticed, unreported⟩ := unreported_of_held started untouched held
    have gone : (attempt (kick user) server).toNode.roster.Gone peer := by
      refine ⟨?_, dismissed.unlinked⟩
      rw [roster_kick seated]
      exact taken
    obtain ⟨parted, ⟨told, appended, others⟩, unheard⟩ :=
      parted_after (orderly.turned (server.turned_kick user)) ⟨gone, dismissed.seatless⟩ left
    have silent : ¬ Reported peer told := fun ⟨notice, mem, _, named⟩ => others notice mem named
    refine ⟨parted.seatless, parted.gone.unlinked, unheard, ⟨told, appended, others⟩,
      earlier ++ (server.handlers.onDisconnect.toList.map fun _ =>
        (.disconnect, { peer, user := some user })) ++ told, ?_, ?_⟩
    · refine appended.trans ?_
      change (attempt (kick user) server).toNode.notices ++ told = _
      rw [dismissed.notices, noticed]
      simp only [List.append_assoc]
    · rw [List.filter_append, List.filter_append, filter_of_unreported unreported,
        filter_of_unreported silent, List.nil_append, List.append_nil, List.filter_eq_self]
      intro notice mem
      obtain ⟨callback, -, rfl⟩ := List.mem_map.mp mem
      simp

/-- The visitor is heard again after that, leaves, and comes back. -/
def returned : List (ServerInput ChatPacket Loopback) :=
  [.elsewhere (arrival [.data 0 .reliable [], .disconnect, .connect 1]) 0, .poll]

theorem kick_of_history_returned :
    ∃ built fresh after, build foyer = .ok built fresh ∧
      (built.after vanished).users.user? ⟨1⟩ = some ⟨0⟩ ∧
      kick ⟨0⟩ (built.after vanished) = .ok () after ∧
      Dismissed ⟨0⟩ ⟨1⟩ (built.after vanished) after ∧
      (∀ event ∈ after.heard returned, event.peer ≠ ⟨1⟩) ∧
      ∃ told, (after.after returned).toNode.notices = foyer.notices ++ told ∧
        told.filter (fun notice => notice.1 = .disconnect ∧ notice.2.peer = ⟨1⟩) =
          [(.disconnect, { peer := ⟨1⟩, user := some ⟨0⟩ })] := by
  obtain ⟨built, fresh, started, before⟩ := exists_vanished
  obtain ⟨-, -, whoever⟩ := kick_of_history started vanished ⟨0⟩
  obtain ⟨after, kicked, dismissed, final⟩ := whoever ⟨1⟩ before.seated
  have own : .shared (.acquire ⟨1⟩) ∉ vanished ++ returned := by
    simp [vanished, returned]
  obtain ⟨-, -, unheard, -, told, noticed, once⟩ := final returned own
  rw [before.onDisconnect] at once
  exact ⟨built, fresh, after, started, before.seated, kicked, dismissed, unheard, told, noticed,
    once⟩

end Server

end Courier
