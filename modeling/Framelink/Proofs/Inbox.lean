import Framelink.Inbox

/-!
# Inboxes are first in, first out

The calls on an inbox, each with what its caller gets to see, and beside them the same
calls on a plain list of bytes.  The two give the same answers to every sequence of
calls, and what was taken away, followed by what is still held, is always all that was
appended.
-/

namespace Framelink
namespace Inbox

/-- A call on an inbox. -/
inductive Request
  | push (bytes : Bytes)
  /-- Copy to the front of a buffer, and take away what was copied if `erase` is set. -/
  | copyOut (buffer : Bytes) (erase : Bool)
  | clear
  | length
  deriving DecidableEq, Repr

/-- What the caller gets to see. -/
inductive Answer
  /-- A number of bytes. -/
  | length (count : Nat)
  /-- How many bytes were copied, and what the buffer holds afterwards. -/
  | copied (count : Nat) (buffer : Bytes)
  | done
  deriving DecidableEq, Repr

namespace Request

/-- The bytes that a call appends. -/
def pushed : Request → Bytes
  | .push bytes => bytes
  | _ => []

end Request

/-- One call: its answer and the inbox after it. -/
def serve (inbox : Inbox) : Request → Answer × Inbox
  | .push bytes => (.length (inbox.push bytes).size, inbox.push bytes)
  | .copyOut buffer erase =>
      let (copied, rest) := inbox.read buffer.length erase
      (.copied copied.length (copied ++ buffer.drop copied.length), rest)
  | .clear => (.done, inbox.clear)
  | .length => (.length inbox.size, inbox)

/-- The bytes that a call takes away: those an erasing read hands out, and those a clear
finds. -/
def taken (inbox : Inbox) : Request → Bytes
  | .copyOut buffer true => (inbox.read buffer.length true).1
  | .clear => inbox.contents
  | _ => []

/-- One call on a plain list of bytes: its answer and the list after it. -/
def serveList (queued : Bytes) : Request → Answer × Bytes
  | .push bytes => (.length (queued ++ bytes).length, queued ++ bytes)
  | .copyOut buffer erase =>
      let count := min buffer.length queued.length
      (.copied count (queued.take count ++ buffer.drop count),
        if erase then queued.drop count else queued)
  | .clear => (.done, [])
  | .length => (.length queued.length, queued)

/-- What a sequence of calls comes to. -/
structure Course where
  answers : List Answer
  /-- All bytes taken away, in the order in which they went. -/
  taken : Bytes
  /-- The inbox after the last call. -/
  last : Inbox

/-- A sequence of calls. -/
def run (inbox : Inbox) : List Request → Course
  | [] => ⟨[], [], inbox⟩
  | request :: requests =>
      let course := run (inbox.serve request).2 requests
      { course with
        answers := (inbox.serve request).1 :: course.answers
        taken := inbox.taken request ++ course.taken }

/-- A sequence of calls on a plain list of bytes: the answers and the list after the last. -/
def runList (queued : Bytes) : List Request → List Answer × Bytes
  | [] => ([], queued)
  | request :: requests =>
      let (answers, last) := runList (serveList queued request).2 requests
      ((serveList queued request).1 :: answers, last)

/-- A call on an inbox is the call on the bytes that it holds. -/
theorem serveList_contents (inbox : Inbox) (request : Request) :
    serveList inbox.contents request =
      ((inbox.serve request).1, (inbox.serve request).2.contents) := by
  cases request with
  | push bytes => rfl
  | clear => rfl
  | length => rfl
  | copyOut buffer erase =>
      have count : (inbox.contents.take buffer.length).length =
          min buffer.length inbox.contents.length := List.length_take
      have front : inbox.contents.take (min buffer.length inbox.contents.length) =
          inbox.contents.take buffer.length := by
        rw [← List.take_eq_take_min]
      cases erase with
      | false =>
          simp only [serveList, serve, read_fst, read_keep, count, front]
          rfl
      | true =>
          have back : inbox.contents.drop (min buffer.length inbox.contents.length) =
              inbox.contents.drop buffer.length := by
            rw [← List.drop_eq_drop_min]
          simp only [serveList, serve, read_fst, contents_read_erase, count, front, back]
          rfl

/-- What a call takes away, followed by what it leaves, is what was there and what it
appends. -/
theorem taken_append_contents (inbox : Inbox) (request : Request) :
    inbox.taken request ++ (inbox.serve request).2.contents =
      inbox.contents ++ request.pushed := by
  cases request with
  | push bytes => rfl
  | clear => simp [taken, serve, Request.pushed]
  | length => simp [taken, serve, Request.pushed]
  | copyOut buffer erase =>
      cases erase with
      | false => simp [taken, serve, Request.pushed]
      | true => simp [taken, serve, Request.pushed]

/-- A sequence of calls on an inbox is the sequence on the bytes that it holds. -/
theorem runList_contents (inbox : Inbox) (requests : List Request) :
    runList inbox.contents requests =
      ((inbox.run requests).answers, (inbox.run requests).last.contents) := by
  induction requests generalizing inbox with
  | nil => rfl
  | cons request requests rest =>
      simp only [runList, run, serveList_contents, rest]

/-- All that a sequence of calls took away, followed by what it left, is what was there
and all that it appended. -/
theorem run_taken_append_contents (inbox : Inbox) (requests : List Request) :
    (inbox.run requests).taken ++ (inbox.run requests).last.contents =
      inbox.contents ++ (requests.map Request.pushed).flatten := by
  induction requests generalizing inbox with
  | nil => simp [run]
  | cons request requests rest =>
      have first := inbox.taken_append_contents request
      have later := rest (inbox.serve request).2
      simp only [run, List.map_cons, List.flatten_cons]
      rw [List.append_assoc, later, ← List.append_assoc, first, List.append_assoc]

/-- A read takes nothing back that was received. -/
theorem received_read (inbox : Inbox) (size : Nat) (erase : Bool) :
    (inbox.read size erase).2.tally.received = inbox.tally.received := by
  cases erase <;> rfl

/-- Two erasing reads one after the other are one of both lengths together. -/
theorem read_add (inbox : Inbox) (first second : Nat) :
    inbox.read (first + second) true =
      ((inbox.read first true).1 ++ ((inbox.read first true).2.read second true).1,
        ((inbox.read first true).2.read second true).2) := by
  have front : inbox.contents.take (first + second) =
      inbox.contents.take first ++ (inbox.contents.drop first).take second :=
    List.take_add
  have back : inbox.contents.drop (first + second) =
      (inbox.contents.drop first).drop second := by
    rw [List.drop_drop]
  simp only [read, if_true, front, back, List.length_append, UInt64.ofNat_add, UInt64.add_assoc]

/-- An inbox is first in, first out.  After whatever calls on a new inbox, every answer was
that of a plain list of bytes, which the inbox now holds; all that was taken away, followed
by what is held, is all that was appended; a read that does not erase leaves the inbox as it
is, and two that do are one of both lengths together. -/
theorem first_in_first_out (requests : List Request) :
    runList [] requests = ((empty.run requests).answers, (empty.run requests).last.contents) ∧
    (empty.run requests).taken ++ (empty.run requests).last.contents =
      (requests.map Request.pushed).flatten ∧
    (∀ buffer,
      ((empty.run requests).last.serve (.copyOut buffer false)).2 =
        (empty.run requests).last) ∧
    (∀ first second,
      (empty.run requests).last.read (first + second) true =
        (((empty.run requests).last.read first true).1 ++
            (((empty.run requests).last.read first true).2.read second true).1,
          (((empty.run requests).last.read first true).2.read second true).2)) := by
  have plain := runList_contents empty requests
  have kept := run_taken_append_contents empty requests
  rw [contents_empty] at plain kept
  rw [List.nil_append] at kept
  refine ⟨plain, kept, ?_, fun first second => read_add _ first second⟩
  intro buffer
  rw [serve]
  exact read_keep _ buffer.length

end Inbox
end Framelink
