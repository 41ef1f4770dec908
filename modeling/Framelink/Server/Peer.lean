import Framelink.Inbox
import Framelink.Address.Socket

/-!
# Peers

What a server keeps of each peer that it tracks, and the table of them.  A handle
stands in the table at most once.
-/

namespace Framelink

/-- A peer, with what its transport keeps of it. -/
structure Peer (Line : Type) where
  /-- The remote address. -/
  address : SocketAddress
  /-- What the peer sent and the application has not taken. -/
  inbox : Inbox
  /-- The peer can still send or receive. -/
  isOpen : Bool
  line : Line

/-- The tracked peers of a server, by their handles. -/
abbrev PeerTable (Handle Line : Type) := List (Handle × Peer Line)

namespace PeerTable

variable {Handle Line : Type} [DecidableEq Handle]

/-- The peer of a handle. -/
def find? (table : PeerTable Handle Line) (handle : Handle) : Option (Peer Line) :=
  table.lookup handle

/-- Whether a handle is tracked. -/
def tracks (table : PeerTable Handle Line) (handle : Handle) : Bool :=
  (table.find? handle).isSome

/-- Change the peer of a handle. -/
def modify (table : PeerTable Handle Line) (handle : Handle)
    (change : Peer Line → Peer Line) : PeerTable Handle Line :=
  table.map fun (other, peer) => (other, if other == handle then change peer else peer)

/-- Track a peer by a handle, in place of any other. -/
def insert (table : PeerTable Handle Line) (handle : Handle) (peer : Peer Line) :
    PeerTable Handle Line :=
  if table.tracks handle then table.modify handle fun _ => peer
  else table ++ [(handle, peer)]

/-- Stop tracking a handle. -/
def erase (table : PeerTable Handle Line) (handle : Handle) : PeerTable Handle Line :=
  table.filter fun entry => !(entry.1 == handle)

/-- The tracked handles. -/
def handles (table : PeerTable Handle Line) : List Handle := table.map Prod.fst

/-! ## What a table finds -/

@[simp] theorem find?_nil (handle : Handle) :
    find? ([] : PeerTable Handle Line) handle = none := rfl

theorem find?_cons (other handle : Handle) (peer : Peer Line)
    (table : PeerTable Handle Line) :
    find? ((other, peer) :: table) handle =
      if handle = other then some peer else find? table handle := by
  by_cases h : handle = other
  · simp [find?, h]
  · simp [find?, List.lookup_cons, beq_false_of_ne h, h]

theorem tracks_iff_mem (table : PeerTable Handle Line) (handle : Handle) :
    table.tracks handle = true ↔ handle ∈ table.handles := by
  induction table with
  | nil => simp [tracks, handles]
  | cons entry table ih =>
      obtain ⟨other, peer⟩ := entry
      by_cases h : handle = other
      · simp [tracks, handles, find?_cons, h]
      · simpa [tracks, handles, find?_cons, h] using ih

/-- A change reaches the peer of its handle and no other. -/
theorem find?_modify (table : PeerTable Handle Line) (changed handle : Handle)
    (change : Peer Line → Peer Line) :
    (table.modify changed change).find? handle =
      if handle = changed then (table.find? handle).map change else table.find? handle := by
  induction table with
  | nil => simp [modify]
  | cons entry table ih =>
      obtain ⟨other, peer⟩ := entry
      by_cases same : other = changed
      · subst same
        by_cases h : handle = other
        · simp [modify, find?_cons, h]
        · simpa [modify, find?_cons, h] using ih
      · by_cases h : handle = other
        · subst h
          simp [modify, find?_cons, same]
        · simpa [modify, find?_cons, h, same] using ih

@[simp] theorem handles_modify (table : PeerTable Handle Line) (changed : Handle)
    (change : Peer Line → Peer Line) :
    (table.modify changed change).handles = table.handles := by
  induction table with
  | nil => rfl
  | cons entry table ih => simp [modify, handles]

/-- An erased handle is not found, and every other is found as before. -/
theorem find?_erase (table : PeerTable Handle Line) (erased handle : Handle) :
    (table.erase erased).find? handle =
      if handle = erased then none else table.find? handle := by
  induction table with
  | nil => simp [erase]
  | cons entry table ih =>
      obtain ⟨other, peer⟩ := entry
      by_cases same : other = erased
      · subst same
        by_cases h : handle = other
        · simpa [erase, find?_cons, h] using ih
        · simpa [erase, find?_cons, h] using ih
      · by_cases h : handle = other
        · subst h
          simp [erase, find?_cons, same]
        · simpa [erase, find?_cons, h, same] using ih

theorem find?_append_singleton (table : PeerTable Handle Line) (added handle : Handle)
    (peer : Peer Line) (h : table.find? added = none) :
    find? (table ++ [(added, peer)]) handle =
      if handle = added then some peer else table.find? handle := by
  induction table with
  | nil => simp [find?_cons]
  | cons entry table ih =>
      obtain ⟨other, first⟩ := entry
      rw [find?_cons] at h
      split at h
      · cases h
      · rename_i differs
        by_cases same : handle = other
        · subst same
          simp [find?_cons, Ne.symm differs]
        · simpa [find?_cons, same] using ih h

/-- The peer that was tracked last under a handle is found, and every other as
before. -/
theorem find?_insert (table : PeerTable Handle Line) (added handle : Handle)
    (peer : Peer Line) :
    (table.insert added peer).find? handle =
      if handle = added then some peer else table.find? handle := by
  by_cases tracked : table.tracks added = true
  · rw [insert, if_pos tracked, find?_modify]
    split
    · next same =>
        subst same
        obtain ⟨old, found⟩ := Option.isSome_iff_exists.1 tracked
        simp [found]
    · rfl
  · rw [insert, if_neg tracked]
    exact find?_append_singleton table added handle peer (by simpa [tracks] using tracked)

end PeerTable
end Framelink
