import StatementShell.Text.Basic
/-!
# Paths

A path in its plain form: what stands in front of the first name, and the names. Repeated slashes,
single dots and a slash at the end make no difference; two dots stay.
-/

namespace StatementShell

def Text.splitAt (separator : Char) : Text → List Text
  | [] => [[]]
  | c :: rest =>
    if c = separator then [] :: splitAt separator rest
    else
      match splitAt separator rest with
      | [] => [[c]]
      | piece :: pieces => (c :: piece) :: pieces

structure Path where
  /-- The slashes at its front: none for a relative path, else one or two. -/
  root : Text
  /-- The names, none of which is empty or a single dot. -/
  names : List Text
deriving DecidableEq, Repr

namespace Path

def above : Text := ".."

/-- The slashes that count at the front of a path. Exactly two stay two; more count as one. -/
def rootOf (text : Text) : Text :=
  match text.takeWhile (· = '/') with
  | [] => []
  | ['/', '/'] => "//"
  | _ => "/"

def ofText (text : Text) : Path where
  root := rootOf text
  names := (text.splitAt '/').filter fun name => name ≠ [] ∧ name ≠ ['.']

def toText (path : Path) : Text :=
  match path.root ++ ['/'].intercalate path.names with
  | [] => "."
  | text => text

/-- The path from the root that a path comes to in a working folder. Two dots take away the name in
front of them, whatever stands there; at the root they mean nothing. -/
def absolute (folder : List Text) (path : Path) : Path :=
  match path.root with
  | [] => ⟨"/", (path.names.foldl step folder.reverse).reverse⟩
  | root => ⟨root, (path.names.foldl step []).reverse⟩
where
  /-- Adds a name to the names that remain so far, the last of them at the front. -/
  step (stack : List Text) (name : Text) : List Text :=
    if name = above then stack.tail else name :: stack

end Path

end StatementShell
