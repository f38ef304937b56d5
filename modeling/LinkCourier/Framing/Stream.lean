import LinkCourier.Failure
import LinkCourier.Framing.Sequence

/-!
Commands and responses on a stream. What arrives is a list of pieces, each delivered by one
read; after the last one the stream has ended. A read that would never return leaves its
caller waiting.
-/

namespace LinkCourier.Framing

/-- What one read brings. No bytes at all mean that the stream has ended; after `silence`
nothing comes any more, not even an end. -/
inductive Arrival where
  | bytes (w : Bytes)
  | fault (e : IoError)
  | silence
  deriving DecidableEq, Repr

/-- What a call on a stream comes to. -/
inductive Answer (α : Type) where
  | done (r : Result Failure α)
  | waiting

/-- A finished call on a stream, and how many bytes it has taken. -/
structure Reading (α : Type) where
  answer : Answer α
  taken : Nat

/-- What the complete lines of a buffer come to: the sequence has been closed by a blank line,
a line was bad, more is needed, or a call has panicked. The lines are newest first. -/
inductive Drained where
  | closed (lines : List Line) (codec : Codec)
  | failed (f : Fault) (codec : Codec)
  | pending (lines : List Line) (codec : Codec) (buf : Bytes)
  | panicked (codec : Codec)

def Codec.drain (c : Codec) (buf : Bytes) (read : List Line) : Drained :=
  match _h : c.decode buf with
  | ⟨.error f, c', _⟩ => .failed f c'
  | ⟨.panicked, c', _⟩ => .panicked c'
  | ⟨.ok none, c', rest⟩ => .pending read c' rest
  | ⟨.ok (some l), c', rest⟩ =>
    if l.isBlank then .closed read c' else drain c' rest (l :: read)
termination_by buf.length
decreasing_by exact Codec.decode_shorter _h

/-- The lines of a buffer to which nothing will be added. -/
def Codec.drainEof (c : Codec) (buf : Bytes) (read : List Line) : Drained :=
  match _h : c.decodeEof buf with
  | ⟨.error f, c', _⟩ => .failed f c'
  | ⟨.panicked, c', _⟩ => .panicked c'
  | ⟨.ok none, c', _⟩ => .closed read c'
  | ⟨.ok (some l), c', rest⟩ =>
    if l.isBlank then .closed read c' else drainEof c' rest (l :: read)
termination_by buf.length
decreasing_by exact Codec.decodeEof_shorter _h

/-- The command of the lines read, newest first; none if there are no lines. -/
def finish (read : List Line) : Option Command :=
  if h : read.reverse ≠ [] then some ⟨read.reverse, h⟩ else none

/-- What is known when the last read has been drained. -/
def Drained.answer : Drained → Result Failure (Option Command)
  | .closed read _ => .ok (finish read)
  | .failed f _ => .error (.framing f)
  | .pending read _ _ => .ok (finish read)
  | .panicked _ => .panicked

def Drained.codec : Drained → Codec
  | .closed _ c => c
  | .failed _ c => c
  | .pending _ c _ => c
  | .panicked c => c

/-- Reads on, with `buf` still to be decoded. -/
def Codec.readOn (c : Codec) (buf : Bytes) (read : List Line) (taken : Nat)
    (arrivals : List Arrival) : Reading (Option Command) × Codec :=
  match c.drain buf read with
  | .pending read c buf =>
    let ended : Reading (Option Command) × Codec :=
      let d := c.drainEof buf read
      (⟨.done d.answer, taken⟩, d.codec)
    match arrivals with
    | [] => ended
    | .bytes w :: rest =>
      if w = [] then ended else c.readOn (buf ++ w) read (taken + w.length) rest
    | .fault e :: _ => (⟨.done (.error (.io e)), taken⟩, c)
    | .silence :: _ => (⟨.waiting, taken⟩, c)
  | d => (⟨.done d.answer, taken⟩, d.codec)

/-- Reads one command with an empty buffer. There is none if the sequence ends before its
first line. -/
def Codec.readCommand (c : Codec) (arrivals : List Arrival) : Reading (Option Command) × Codec :=
  c.readOn [] [] 0 arrivals

/-- Reads to the end of the stream, but not more than `room` bytes. -/
def readUpTo (room taken : Nat) (got : List Bytes) : List Arrival → Answer Bytes × Nat
  | [] => (.done (.ok got.reverse.flatten), taken)
  | .bytes w :: rest =>
    if w = [] ∨ room = 0 then (.done (.ok got.reverse.flatten), taken)
    else
      let w := w.take room
      readUpTo (room - w.length) (taken + w.length) (w :: got) rest
  | .fault e :: _ =>
    if room = 0 then (.done (.ok got.reverse.flatten), taken) else (.done (.error (.io e)), taken)
  | .silence :: _ =>
    if room = 0 then (.done (.ok got.reverse.flatten), taken) else (.waiting, taken)

/-- How many bytes of a response are taken at most: one over the limit, which is enough to know
that the response is too large. The sum stays in the width of the limit, so that over the largest
one there is no such byte. -/
def allowance (limit : UInt64) : Nat := min (limit.toNat + 1) (UInt64.size - 1)

/-- Reads a response to its end, or up to the allowance. -/
def readResponse (limit : UInt64) (arrivals : List Arrival) : Reading Bytes :=
  match readUpTo (allowance limit) 0 [] arrivals with
  | (.done (.ok w), taken) =>
    if limit.toNat < w.length then ⟨.done (.error (.responseTooLarge limit)), taken⟩
    else ⟨.done (.ok w), taken⟩
  | (a, taken) => ⟨a, taken⟩

/-! ### Writing -/

/-- Where bytes are written to: how many one write takes, how many there is room for, what a
write says when there is no room (nothing is accepted, if it says nothing), and what a flush
says. -/
structure Sink where
  step : Option Nat := none
  room : Option Nat := none
  refusal : Option IoError := none
  flushFault : Option IoError := none

/-- How many bytes the next write of `n` bytes takes. -/
def Sink.accepts (s : Sink) (n : Nat) : Except IoError Nat :=
  match s.room with
  | some 0 => match s.refusal with
    | some e => .error e
    | none => .ok 0
  | some r => .ok (min (s.step.getD n) (min r n))
  | none => .ok (min (s.step.getD n) n)

def Sink.use (s : Sink) (n : Nat) : Sink := { s with room := s.room.map (· - n) }

/-- The bytes accepted, how often a flush was asked for, and the result. -/
structure Written where
  bytes : Bytes
  flushes : Nat
  result : Except Failure Unit

/-- Writes until everything is accepted; a write that accepts nothing is a failure. The result
has the pieces that were accepted. -/
def writeAll (s : Sink) (w : Bytes) : List Bytes × Except Failure Unit :=
  if w = [] then ([], .ok ())
  else match s.accepts w.length with
    | .error e => ([], .error (.io e))
    | .ok n =>
      if n = 0 then ([], .error (.io (.plain .writeZero)))
      else
        let (got, r) := writeAll (s.use n) (w.drop n)
        (w.take n :: got, r)
termination_by w.length
decreasing_by
  simp only [List.length_drop]
  have := List.length_pos_iff.2 ‹w ≠ []›
  omega

/-- Writes everything and flushes once. -/
def write (s : Sink) (w : Bytes) : Written :=
  match writeAll s w with
  | (got, .error f) => ⟨got.flatten, 0, .error f⟩
  | (got, .ok ()) => match s.flushFault with
    | some e => ⟨got.flatten, 1, .error (.io e)⟩
    | none => ⟨got.flatten, 1, .ok ()⟩

def writeCommand (s : Sink) (c : Command) : Written := write s (encodeCommand c)
def writeResponse (s : Sink) (w : Bytes) : Written := write s w

end LinkCourier.Framing
