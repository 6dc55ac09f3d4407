import ValidatorKeys.File.Tree

/-!
# Questions about files

What can be asked of a path by a letter: whether something stands there, of which kind it is, and
what may be done with it.  Reading and writing are always allowed.
-/

namespace ValidatorKeys.FileTree

/-- The answer to a question about a node; letters that ask for links, sockets, pipes and blocks are
always answered in the negative. -/
def answer (question : Char) (n : Node) : Bool :=
  match n with
  | .file content mode =>
    match question with
    | 's' => content.size != 0
    | 'x' => mode &&& 0o111 != 0
    | 'u' => mode &&& 0o4000 != 0
    | 'g' => mode &&& 0o2000 != 0
    | 'k' => mode &&& 0o1000 != 0
    | q => "efrwOG".toList.contains q
  | .directory mode =>
    match question with
    | 'u' => mode &&& 0o4000 != 0
    | 'g' => mode &&& 0o2000 != 0
    | 'k' => mode &&& 0o1000 != 0
    | q => "derswxOG".toList.contains q
  | .program _ => "efrswxOG".toList.contains question
  | .stream _ => "erwOG".toList.contains question
  | _ => "cerwOG".toList.contains question

def ask (t : FileTree) (cwd : String) (question : Char) (path : String) : Bool :=
  match t.lookup cwd path with
  | .ok (_, n) => answer question n
  | .error _ => false

/-- Whether two paths name the same thing. -/
def isSame (t : FileTree) (cwd p q : String) : Bool :=
  match t.lookup cwd p, t.lookup cwd q with
  | .ok (l, _), .ok (k, _) => l == k
  | _, _ => false

end ValidatorKeys.FileTree
