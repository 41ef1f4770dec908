import Framelink.Proofs.Udp.Watch

/-!
# What a history says and what a server holds

A history accounts for a server if the server holds what the history says: for every
address the inbox, or none, and the callbacks in place.  Each function of the server is
followed by the events that account for what it did.  Sockets, threads and datagrams
sent do not show in these books.
-/

namespace Framelink
namespace Udp

namespace Server

/-- What a history tells of a server, and the reports. -/
def books (server : Server) :
    PeerTable SocketAddress Unit × Option Reaction × Option Reaction ×
      List (Report SocketAddress) :=
  (server.peers, server.onData, server.onNewPeer, server.reports)

/-- What a server keeps of a tracked address with an inbox. -/
def session (address : SocketAddress) (inbox : Inbox) : Peer Unit :=
  { freshPeer address with inbox }

variable (server : Server)

/-! ## What does not show in the books -/

theorem books_releaseSocket (address : SocketAddress) :
    (server.releaseSocket address).books = server.books := by
  rw [releaseSocket]
  split <;> rfl

theorem books_endReceiver (address : SocketAddress) :
    (server.endReceiver address).books = server.books := by
  rw [endReceiver]
  exact books_releaseSocket _ address

theorem books_dropSocket : server.dropSocket.books = server.books := by
  rw [dropSocket]
  split
  · rfl
  · exact books_releaseSocket _ _

theorem books_windDown : server.windDown.books = server.books := by
  have ended (bounds : List SocketAddress) (first : Server) :
      (bounds.foldl endReceiver first).books = first.books := by
    induction bounds generalizing first with
    | nil => rfl
    | cons bound rest inductionHypothesis =>
        rw [List.foldl_cons, inductionHypothesis, books_endReceiver]
  rw [windDown, books_dropSocket, ended]

theorem books_stop : books (Framelink.Server.stop server) = server.books := by
  rw [Framelink.Server.stop]
  split
  · exact books_windDown _
  · rfl

theorem books_listen : server.listen.2.books = server.books := by
  rw [listen]
  split
  · rfl
  · split
    · rfl
    · dsimp only
      split <;> rfl

theorem books_start : books (Framelink.Server.start server).2 = server.books := by
  rw [Framelink.Server.start]
  split
  · rfl
  · have listened := books_listen { server with running := true }
    rw [Framelink.Server.setUp]
    split
    · next address later made =>
        rw [show listen _ = _ from made] at listened
        exact listened
    · next error later failed =>
        rw [show listen _ = _ from failed] at listened
        exact listened

theorem books_sendTo (target : SocketAddress) (bytes : Bytes) :
    (sendTo target bytes server).2.books = server.books := by
  rw [sendTo]
  split <;> rfl

theorem books_broadcast (bytes : Bytes) : (broadcast bytes server).2.books = server.books := by
  rw [broadcast]
  split
  · rfl
  · split <;> rfl

/-- What books hold besides what a history tells: the reports. -/
theorem reports_of_books {server later : Server} (same : later.books = server.books) :
    later.reports = server.reports :=
  congrArg (fun books => books.2.2.2) same

theorem reports_read (peer : SocketAddress) (size : Nat) (erase : Bool) :
    (Framelink.Server.read server peer size erase).2.reports = server.reports := by
  rw [Framelink.Server.read]
  split <;> rfl

theorem reports_clear (peer : SocketAddress) :
    (Framelink.Server.clear server peer).2.reports = server.reports := by
  rw [Framelink.Server.clear]
  split <;> rfl

theorem reports_remove (peer : SocketAddress) :
    (Framelink.Server.remove server peer).2.reports = server.reports := by
  rw [Framelink.Server.remove]
  split <;> rfl

theorem reports_on (act : Act) : (act.on server).reports = server.reports := by
  cases act with
  | read peer size erase => exact reports_read server peer size erase
  | clear peer => exact reports_clear server peer
  | remove peer => exact reports_remove server peer
  | send target bytes => exact reports_of_books (books_sendTo server target bytes)
  | broadcast bytes => exact reports_of_books (books_broadcast server bytes)
  | disturb _ | replace _ _ | adjust _ => rfl

/-- A reaction reports nothing: its report is made for it. -/
theorem reports_perform (peer : SocketAddress) (payload : Bytes) (reaction : Reaction) :
    (Framelink.Server.perform server peer payload reaction).2.reports = server.reports := by
  cases reaction with
  | echo | reverse | greet => exact reports_of_books (books_sendTo server peer _)
  | drain => exact reports_read server peer payload.length true
  | peek => exact reports_read server peer payload.length false
  | clear => exact reports_clear server peer
  | remove => exact reports_remove server peer
  | stop => exact reports_of_books (books_stop server)
  | start => exact reports_of_books (books_start server)
  | log | panic | recover | replace _ _ => rfl

theorem books_leave (pass : Pass) (delivery : Delivery) :
    (pass.leave server delivery).books = server.books := by
  cases delivery with
  | panicked => exact books_endReceiver _ _
  | heard | unheard => rfl

/-! ## What a changed peer shows -/

theorem find?_modifyPeer (changed address : SocketAddress) (change : Peer Unit → Peer Unit) :
    (Framelink.Server.modifyPeer server changed change).peers.find? address =
      if address = changed then (server.peers.find? address).map change
      else server.peers.find? address :=
  PeerTable.find?_modify server.peers changed address change

end Server

namespace History

/-- A history says of a server what it holds. -/
structure Accounts (history : History) (server : Server) : Prop where
  sessions : ∀ address,
    server.peers.find? address = (history.inbox? address).map (Server.session address)
  onData : server.onData = history.onData
  onNewPeer : server.onNewPeer = history.onNewPeer

variable {history : History} {server later : Server}

theorem accounts_initial (settings : Settings) (network : Network) :
    Accounts [] (.stopped settings network) := ⟨fun _ => rfl, rfl, rfl⟩

/-- What does not show in the books needs no event. -/
theorem Accounts.of_books (accounts : history.Accounts server)
    (same : later.books = server.books) : history.Accounts later := by
  rw [Server.books, Server.books, Prod.mk.injEq, Prod.mk.injEq, Prod.mk.injEq] at same
  obtain ⟨peers, onData, onNewPeer, -⟩ := same
  refine ⟨?_, onData.trans accounts.onData, onNewPeer.trans accounts.onNewPeer⟩
  rw [peers]
  exact accounts.sessions

theorem Accounts.tracks (accounts : history.Accounts server) (address : SocketAddress) :
    server.peers.tracks address = (history.inbox? address).isSome := by
  rw [PeerTable.tracks, accounts.sessions, Option.isSome_map]

/-- An event of a receiver or of an inbox leaves the callbacks in place. -/
theorem Accounts.step (accounts : history.Accounts server) {event : Event}
    (still : event.callbacks history.callbacks = history.callbacks)
    (sessions : ∀ address, later.peers.find? address =
      (event.session address (history.inbox? address)).map (Server.session address))
    (onData : later.onData = server.onData) (onNewPeer : later.onNewPeer = server.onNewPeer) :
    Accounts (history ++ [event]) later := by
  refine ⟨?_, ?_, ?_⟩
  · intro address
    rw [inbox?_snoc]
    exact sessions address
  · rw [History.onData, callbacks_snoc, still]
    exact onData.trans accounts.onData
  · rw [History.onNewPeer, callbacks_snoc, still]
    exact onNewPeer.trans accounts.onNewPeer

/-- The turn of a callback itself changes nothing. -/
theorem Accounts.turn (accounts : history.Accounts server) {event : Event}
    (turn : event.isTurn = true) : Accounts (history ++ [event]) server := by
  refine accounts.step (Event.callbacks_of_isTurn turn _) ?_ rfl rfl
  intro address
  rw [Event.session_of_isTurn turn]
  exact accounts.sessions address

/-! ## Inboxes -/

/-- What changes the inbox of one peer is accounted for by an event that alters the inbox of
its address. -/
theorem Accounts.touch (accounts : history.Accounts server) {event : Event}
    {peer : SocketAddress} {change : Inbox → Inbox}
    (still : event.callbacks history.callbacks = history.callbacks)
    (lasting : ∀ address inbox, event.session address inbox = inbox.map (event.alter address))
    (alters : ∀ address inbox,
      event.alter address inbox = if peer = address then change inbox else inbox)
    (changed : ∀ address, later.peers.find? address =
      if address = peer then
        (server.peers.find? address).map fun found => { found with inbox := change found.inbox }
      else server.peers.find? address)
    (onData : later.onData = server.onData) (onNewPeer : later.onNewPeer = server.onNewPeer) :
    Accounts (history ++ [event]) later := by
  refine accounts.step still ?_ onData onNewPeer
  intro address
  rw [changed, lasting, accounts.sessions]
  by_cases same : address = peer
  · rw [if_pos same]
    cases history.inbox? address with
    | none => rfl
    | some inbox => simp [alters, same, Server.session]
  · rw [if_neg same]
    cases history.inbox? address with
    | none => rfl
    | some inbox => simp [alters, Ne.symm same]

/-- Where a peer is not tracked there is no inbox to alter. -/
theorem Accounts.touch_untracked (accounts : history.Accounts server) {event : Event}
    {peer : SocketAddress} {change : Inbox → Inbox}
    (still : event.callbacks history.callbacks = history.callbacks)
    (lasting : ∀ address inbox, event.session address inbox = inbox.map (event.alter address))
    (alters : ∀ address inbox,
      event.alter address inbox = if peer = address then change inbox else inbox)
    (untracked : server.peers.find? peer = none) : Accounts (history ++ [event]) server := by
  refine accounts.touch still lasting alters ?_ rfl rfl
  intro address
  by_cases same : address = peer
  · rw [if_pos same, same, untracked]
    rfl
  · rw [if_neg same]

theorem Accounts.push (accounts : history.Accounts server) (datagram : Datagram) :
    Accounts (history ++ [.kept datagram])
      (Framelink.Server.push server datagram.source datagram.payload) := by
  refine accounts.touch rfl (fun _ _ => rfl) (fun _ _ => rfl) ?_ rfl rfl
  intro address
  rw [Framelink.Server.push, Server.find?_modifyPeer]

/-- A read of a peer that is not tracked copies nothing, and there is no inbox to alter. -/
theorem Accounts.read (accounts : history.Accounts server) (peer : SocketAddress) (size : Nat)
    (erase : Bool) :
    Accounts (history ++ [.read peer size erase])
      (Framelink.Server.read server peer size erase).2 := by
  rw [Framelink.Server.read, Framelink.Server.require, Framelink.Server.peer?]
  cases found : server.peers.find? peer with
  | none => exact accounts.touch_untracked rfl (fun _ _ => rfl) (fun _ _ => rfl) found
  | some tracked =>
      refine accounts.touch rfl (fun _ _ => rfl) (fun _ _ => rfl) ?_ rfl rfl
      intro address
      dsimp only
      rw [Server.find?_modifyPeer]
      by_cases same : address = peer
      · rw [if_pos same, if_pos same, same, found]
        rfl
      · rw [if_neg same, if_neg same]

theorem Accounts.clear (accounts : history.Accounts server) (peer : SocketAddress) :
    Accounts (history ++ [.cleared peer]) (Framelink.Server.clear server peer).2 := by
  rw [Framelink.Server.clear, Framelink.Server.require, Framelink.Server.peer?]
  cases found : server.peers.find? peer with
  | none => exact accounts.touch_untracked rfl (fun _ _ => rfl) (fun _ _ => rfl) found
  | some tracked =>
      refine accounts.touch rfl (fun _ _ => rfl) (fun _ _ => rfl) ?_ rfl rfl
      intro address
      dsimp only
      rw [Server.find?_modifyPeer]

/-! ## Tracking -/

theorem Accounts.remove (accounts : history.Accounts server) (peer : SocketAddress) :
    Accounts (history ++ [.removed peer]) (Framelink.Server.remove server peer).2 := by
  rw [Framelink.Server.remove, Framelink.Server.peer?]
  cases found : server.peers.find? peer with
  | none =>
      dsimp only
      refine accounts.step rfl ?_ rfl rfl
      intro address
      rw [Event.session]
      by_cases same : address = peer
      · rw [if_pos same.symm, same, found]
        rfl
      · rw [if_neg (Ne.symm same)]
        exact accounts.sessions address
  | some tracked =>
      dsimp only
      refine accounts.step rfl ?_ rfl rfl
      intro address
      refine (PeerTable.find?_erase server.peers peer address).trans ?_
      rw [Event.session]
      by_cases same : address = peer
      · rw [if_pos same, if_pos same.symm]
        rfl
      · rw [if_neg same, if_neg (Ne.symm same)]
        exact accounts.sessions address

/-- A datagram has its sender tracked, with an empty inbox if it was not tracked before; the
server knows which of the two was the case. -/
theorem Accounts.trackNew (accounts : history.Accounts server) {datagram : Datagram}
    {unknown : Bool}
    (tracked : Framelink.Server.trackNew server datagram.source
      (Server.freshPeer datagram.source) = (unknown, later)) :
    unknown = (history.inbox? datagram.source).isNone ∧
      Accounts (history ++ [.arrived datagram unknown]) later ∧
      later.reports = server.reports := by
  have tracks := accounts.tracks datagram.source
  rw [Framelink.Server.trackNew] at tracked
  cases held : history.inbox? datagram.source with
  | some inbox =>
      rw [held, Option.isSome_some] at tracks
      rw [if_pos tracks] at tracked
      cases tracked
      refine ⟨rfl, accounts.step rfl ?_ rfl rfl, rfl⟩
      intro address
      rw [Event.session]
      by_cases same : address = datagram.source
      · rw [if_pos same.symm, accounts.sessions, same, held]
        rfl
      · rw [if_neg (Ne.symm same)]
        exact accounts.sessions address
  | none =>
      rw [held, Option.isSome_none] at tracks
      rw [if_neg (by rw [tracks]; decide)] at tracked
      cases tracked
      refine ⟨rfl, accounts.step rfl ?_ rfl rfl, rfl⟩
      intro address
      refine (PeerTable.find?_insert server.peers datagram.source address _).trans ?_
      rw [Event.session]
      by_cases same : address = datagram.source
      · rw [if_pos same, if_pos same.symm, same, held]
        rfl
      · rw [if_neg same, if_neg (Ne.symm same)]
        exact accounts.sessions address

/-! ## Callbacks -/

theorem Accounts.replace (accounts : history.Accounts server)
    (onData onNewPeer : Option Reaction) :
    Accounts (history ++ [.replaced onData onNewPeer]) { server with onData, onNewPeer } := by
  refine ⟨?_, ?_, ?_⟩
  · intro address
    rw [inbox?_snoc]
    refine (accounts.sessions address).trans ?_
    cases history.inbox? address with
    | none => rfl
    | some inbox => rfl
  · rw [History.onData, callbacks_snoc]
    rfl
  · rw [History.onNewPeer, callbacks_snoc]
    rfl

/-- What an act does is accounted for by its marks, and reported nowhere. -/
theorem Accounts.on (accounts : history.Accounts server) (act : Act) :
    Accounts (history ++ act.marks) (act.on server) := by
  cases act with
  | read peer size erase => exact accounts.read peer size erase
  | clear peer => exact accounts.clear peer
  | remove peer => exact accounts.remove peer
  | replace onData onNewPeer => exact accounts.replace onData onNewPeer
  | disturb network =>
      rw [Act.marks, List.append_nil]
      exact accounts.of_books rfl
  | send target bytes =>
      rw [Act.marks, List.append_nil]
      exact accounts.of_books (Server.books_sendTo server target bytes)
  | broadcast bytes =>
      rw [Act.marks, List.append_nil]
      exact accounts.of_books (Server.books_broadcast server bytes)
  | adjust settings =>
      rw [Act.marks, List.append_nil]
      exact accounts.of_books rfl

/-- What a reaction does is accounted for by its marks. -/
theorem Accounts.perform (accounts : history.Accounts server) (peer : SocketAddress)
    (payload : Bytes) (reaction : Reaction) :
    Accounts (history ++ reaction.marks peer payload)
      (Framelink.Server.perform server peer payload reaction).2 := by
  cases reaction with
  | drain => exact accounts.read peer payload.length true
  | peek => exact accounts.read peer payload.length false
  | clear => exact accounts.clear peer
  | remove => exact accounts.remove peer
  | replace onData onNewPeer => exact accounts.replace onData onNewPeer
  | log | panic | recover =>
      rw [Reaction.marks, List.append_nil]
      exact accounts
  | echo | reverse | greet =>
      rw [Reaction.marks, List.append_nil]
      exact accounts.of_books (Server.books_sendTo server peer _)
  | stop =>
      rw [Reaction.marks, List.append_nil]
      exact accounts.of_books (Server.books_stop server)
  | start =>
      rw [Reaction.marks, List.append_nil]
      exact accounts.of_books (Server.books_start server)

/-- A callback that is called is accounted for by the marks of its reaction, and it is
reported once. -/
theorem Accounts.callBack (accounts : history.Accounts server) (peer : SocketAddress)
    (payload : Bytes) (reaction : Reaction) (report : Answer → Report SocketAddress) :
    Accounts (history ++ reaction.marks peer payload)
        (Framelink.Server.callBack server peer payload reaction report).2 ∧
      ∃ answer, (Framelink.Server.callBack server peer payload reaction report).2.reports =
        server.reports ++ [report answer] := by
  let bare : Server := { server with reports := [] }
  have unreported : history.Accounts bare :=
    ⟨accounts.sessions, accounts.onData, accounts.onNewPeer⟩
  have performed := unreported.perform peer payload reaction
  have silent := Server.reports_perform bare peer payload reaction
  dsimp only [Framelink.Server.callBack]
  refine ⟨⟨performed.sessions, performed.onData, performed.onNewPeer⟩, ?_⟩
  rw [silent]
  exact ⟨_, rfl⟩

end History
end Udp
end Framelink
