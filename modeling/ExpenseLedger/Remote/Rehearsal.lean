import ExpenseLedger.Remote.Dialogue

/-!
# Rehearsed servers

A rehearsed server replies what it was told to reply, in order, and notes what it was sent. A server
may also not listen at all, in which case no connection comes about and no dialogue is held.
-/

namespace ExpenseLedger.Remote

/-- What a rehearsed server was sent, and what it has yet to reply. -/
structure Rehearsal where
  /-- The commands that were sent, each with its words. -/
  sent : List (List String)
  /-- The replies to the next requests. -/
  replies : List Reply

/-- Notes a request and gives the next reply. A server with nothing left to say hangs up. -/
def Rehearsal.serve (request : Request) (s : Rehearsal) : Reply × Rehearsal :=
  let sent := s.sent ++ request.words
  match s.replies with
  | [] => (.error "ERR connection closed", ⟨sent, []⟩)
  | reply :: replies => (reply, ⟨sent, replies⟩)

/-- A server to connect to, with a state of its own. -/
inductive Server (σ : Type) where
  /-- It refuses connections. -/
  | refusing
  /-- It serves requests. -/
  | serving (serve : Request → σ → Reply × σ)

/-- The way in which a server serves, if a connection comes about. -/
def Server.connect? {σ : Type} : Server σ → Option (Request → σ → Reply × σ)
  | refusing => none
  | serving serve => some serve

end ExpenseLedger.Remote
