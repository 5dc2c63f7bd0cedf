import ExpenseLedger.Remote.Command
import ExpenseLedger.Remote.Reply

/-!
# Dialogues with a remote store

A dialogue sends requests and goes on with what is replied. It is held with a server that serves
each request from a state of its own: one that keeps keys, or one that only says what it was told to
say. Main statement: two dialogues in a row are held one after the other.
-/

namespace ExpenseLedger.Remote

variable {σ α β : Type}

/-- A dialogue that ends with a value. -/
inductive Dialogue (α : Type) where
  /-- It has ended. -/
  | done (value : α)
  /-- It sends a request and waits for the reply. -/
  | ask (request : Request) (next : Reply → Dialogue α)

namespace Dialogue

/-- Goes on with the value of a dialogue. -/
def bind : Dialogue α → (α → Dialogue β) → Dialogue β
  | done a, f => f a
  | ask request next, f => ask request fun reply => (next reply).bind f

instance : Monad Dialogue where
  pure := done
  bind := bind

/-- Sends a request and reads the reply. -/
def query (request : Request) (reading? : Reply → Option α) : Dialogue (Except Error α) :=
  ask request fun reply => done (reply.read reading?)

/-- Holds a dialogue with a server. -/
def hold (serve : Request → σ → Reply × σ) : Dialogue α → σ → α × σ
  | done a, s => (a, s)
  | ask request next, s =>
    let r := serve request s
    hold serve (next r.1) r.2

/-- Two dialogues in a row are held one after the other. -/
theorem hold_bind (serve : Request → σ → Reply × σ) (d : Dialogue α) (f : α → Dialogue β) (s : σ) :
    hold serve (d >>= f) s = hold serve (f (hold serve d s).1) (hold serve d s).2 := by
  induction d generalizing s with
  | done a => rfl
  | ask request next ih => exact ih (serve request s).1 (serve request s).2

end Dialogue

end ExpenseLedger.Remote
