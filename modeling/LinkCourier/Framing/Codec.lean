import LinkCourier.Command
import LinkCourier.Result
import LinkCourier.Text.Utf8

/-!
Lines on the wire. A line ends in a line feed, before which one carriage return is dropped;
white space at its end is no part of it. The codec remembers how far it has looked for a
line feed, so that a buffer which grows is not searched from its start again.
-/

namespace LinkCourier.Framing

def lf : UInt8 := 10
def cr : UInt8 := 13

/-- What ends a line that is written. -/
def terminator : Bytes := [cr, lf]

/-- The longest line accepted where nothing else is asked for. -/
def defaultLimit : UInt64 := 8192

/-- Why bytes are no command; `stated` is a reason given in words. -/
inductive Fault where
  | lineTooLong (length : Nat) (limit : UInt64)
  | pendingTooLong (limit : UInt64)
  | notUtf8 (fault : Utf8.Fault)
  | broken (b : Line.Break)
  | noLines
  | stated (reason : Text)
  deriving DecidableEq, Repr

def Fault.message : Fault → String
  | .lineTooLong length limit => s!"Line too long: {length} bytes (max {limit.toNat})"
  | .pendingTooLong limit => s!"Line too long: more than {limit.toNat} bytes without terminator"
  | .notUtf8 fault => s!"Line is not valid UTF-8: {fault.message}"
  | .broken b => s!"Invalid command: {b.message}"
  | .noLines => "Empty command sequence"
  | .stated reason => String.ofList reason

def dropCr (raw : Bytes) : Bytes := if raw.getLast? = some cr then raw.dropLast else raw

/-- Reads the bytes before a line feed. -/
def readLine (limit : UInt64) (raw : Bytes) : Except Fault Line :=
  let raw := dropCr raw
  if limit.toNat < raw.length then .error (.lineTooLong raw.length limit)
  else match Utf8.decode raw with
    | .error f => .error (.notUtf8 f)
    | .ok t => match Line.ofText (Text.trimEnd t) with
      | .error b => .error (.broken b)
      | .ok l => .ok l

/-- The answer of a call that takes the line of some bytes. -/
def answerFor (limit : UInt64) (raw : Bytes) : Result Fault (Option Line) :=
  match readLine limit raw with
  | .error f => .error f
  | .ok l => .ok (some l)

def encodeLine (l : Line) : Bytes := Text.encode l.text ++ terminator

/-- The line limit, and how much of the buffer holds no line feed. -/
structure Codec where
  limit : UInt64 := defaultLimit
  resume : Nat := 0
  deriving DecidableEq, Repr

/-- The answer of a call, with the codec and the buffer it leaves. -/
structure Outcome where
  answer : Result Fault (Option Line)
  codec : Codec
  buffer : Bytes

namespace Codec

/-- Takes the next line off the buffer. A pending line may be one byte over the limit,
for a carriage return whose line feed is still to come. The sum has to fit the width of the
limit: with the largest limit a call that finds no line feed panics, whatever is pending. -/
def decode (c : Codec) (buf : Bytes) : Outcome :=
  match (buf.drop c.resume).findIdx? (· == lf) with
  | some i =>
    ⟨answerFor c.limit (buf.take (c.resume + i)), { c with resume := 0 },
      buf.drop (c.resume + i + 1)⟩
  | none =>
    if c.limit.toNat + 1 < UInt64.size then
      if c.limit.toNat + 1 < buf.length then ⟨.error (.pendingTooLong c.limit), c, buf⟩
      else ⟨.ok none, { c with resume := buf.length }, buf⟩
    else ⟨.panicked, c, buf⟩

/-- Takes the next line off a buffer to which nothing will be added: what is left after the
last line feed counts as a line. -/
def decodeEof (c : Codec) (buf : Bytes) : Outcome :=
  match c.decode buf with
  | ⟨.ok none, c', rest⟩ =>
    if rest = [] then ⟨.ok none, c', rest⟩
    else ⟨answerFor c'.limit rest, { c' with resume := 0 }, []⟩
  | o => o

/-- A call that returns a line leaves a shorter buffer. -/
theorem decode_shorter {c c' : Codec} {buf rest : Bytes} {l : Line}
    (h : c.decode buf = ⟨.ok (some l), c', rest⟩) : rest.length < buf.length := by
  unfold decode at h
  split at h
  · rename_i i hi
    have := (List.findIdx?_eq_some_iff_getElem.1 hi).1
    simp only [List.length_drop] at this
    simp only [Outcome.mk.injEq] at h
    simp only [← h.2.2, List.length_drop]
    omega
  · split at h
    · split at h <;> simp at h
    · simp at h

theorem decodeEof_shorter {c c' : Codec} {buf rest : Bytes} {l : Line}
    (h : c.decodeEof buf = ⟨.ok (some l), c', rest⟩) : rest.length < buf.length := by
  unfold decodeEof at h
  split at h
  · rename_i c1 rest1 hd
    split at h
    · simp at h
    · rename_i hne
      simp only [Outcome.mk.injEq] at h
      have : rest1 = buf := by
        unfold decode at hd
        split at hd
        · simp only [Outcome.mk.injEq, answerFor] at hd
          split at hd <;> simp at hd
        · split at hd
          · split at hd <;> simp_all
          · simp at hd
      subst this
      rw [← h.2.2]
      exact List.length_pos_iff.2 hne
  · exact decode_shorter h

/-- Writes a line at the end of the buffer. -/
def encode (_ : Codec) (l : Line) (buf : Bytes) : Bytes := buf ++ encodeLine l

end Codec

end LinkCourier.Framing
