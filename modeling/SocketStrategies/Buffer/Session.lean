import SocketStrategies.Arena
import SocketStrategies.Buffer.Workspace

/-!
# Several users of one factory

A factory is shared by reference, and whoever holds a reference may copy it. All copies lead to
the same factory: a buffer that was taken through one of them goes back to where all of them look.

A session is a factory with its users and the buffers in use, whoever took them.
-/

namespace SocketStrategies

/-- A factory with its users and the buffers in use. -/
structure Session where
  arena : Arena
  /-- The reference that was there first. -/
  original : Shared FactoryKind
  /-- The copies in the order in which they were made. -/
  copies : List (Shared FactoryKind)
  live : List (String × Buffer)

namespace Session

/-- What is done next, and by whom. Users are counted from zero. -/
inductive Action where
  /-- Copies a user's reference for a new user. -/
  | join (user : Nat)
  | work (user : Nat) (id : String) (step : Workspace.Step)
  deriving DecidableEq

def new (kind : FactoryKind) : Session :=
  let (r, a) := Arena.initial.share kind
  ⟨a, r, [], []⟩

/-- The reference of a user. A number that no user has stands for the first one. -/
def reference (s : Session) (user : Nat) : Shared FactoryKind :=
  (s.original :: s.copies).getD user s.original

/-- The factory as a user finds it, with the buffers in use. -/
def workspace (s : Session) (user : Nat) : Workspace :=
  ⟨s.arena.factory (s.reference user), s.live⟩

def act (s : Session) : Action → Workspace.Reply × Session
  | .join user => (.done, { s with copies := s.copies ++ [(s.reference user).copy] })
  | .work user id step =>
      let ((reply, live), arena) := s.arena.withFactory (s.reference user) fun f =>
        let (reply, w) := Workspace.step ⟨f, s.live⟩ id step
        ((reply, w.live), w.factory)
      (reply, { s with arena := arena, live := live })

def run (s : Session) : List Action → List Workspace.Reply × Session
  | [] => ([], s)
  | a :: rest =>
      let (reply, s) := s.act a
      let (replies, s) := s.run rest
      (reply :: replies, s)

end Session

end SocketStrategies
