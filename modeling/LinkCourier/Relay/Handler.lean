import LinkCourier.Failure
import LinkCourier.Shell.Execute

/-!
What a server does with a command: a response or a failure, and the state for the next one.
-/

namespace LinkCourier

structure Handler (σ : Type) where
  handle : σ → Command → Except Failure Bytes × σ

namespace Handler

/-- The shell of a daemon that reads links in some way. It never fails. -/
def shell {α : Type} (k : Link.Reader α) : Handler Store where
  handle s c := let (w, s) := Shell.respond k s c; (.ok w, s)

/-- A handler that keeps nothing. -/
def stateless {σ : Type} (f : Command → Except Failure Bytes) : Handler σ where
  handle s c := (f c, s)

/-- Answers with the number of lines and the lines themselves. -/
def describe (c : Command) : Bytes :=
  Text.encode (Decimal.digits c.lines.length ++ " lines: ".toList ++
    List.intercalate ['|'] (c.lines.map (·.text)))

/-- Answers with the link of the command. -/
def echoLink (c : Command) : Bytes := Text.encode (c.link?.getD [])

end Handler

end LinkCourier
