import SymbolAnnotations.File.View

/-!
# Directory trees

A directory holds files, symbolic links and further directories under names.
Whoever walks through the tree keeps a trail: the directory reached and those
passed on the way, so that `..` leads back and a change made down here is not
lost further up.

* `Directory.node?_set` — putting a node under a name changes what is found
  under that name and nothing else;
* `Trail.leave_enter` — entering a directory and leaving it again leads back.
-/

namespace SymbolAnnotations

/-- What a file holds. -/
inductive Content where
  | bytes (data : ByteArray)
  /-- A run of zero bytes, as in a sparse file. -/
  | zeros (count : Nat)

namespace Content

/-- The number of bytes. -/
def size : Content → Nat
  | bytes data => data.size
  | zeros count => count

/-- The bytes. -/
def toByteArray : Content → ByteArray
  | bytes data => data
  | zeros count => ⟨Array.replicate count 0⟩

/-- The source that the file holds, unless it is too large for one. -/
def source (content : Content) : Except ReadError ByteArray :=
  if content.size > maxSourceSize then .error (.tooLarge content.size)
  else .ok content.toByteArray

end Content

/-- The entries of a directory, in the order in which it lists them. -/
inductive Directory where
  | empty
  | file (name : FileName) (content : Content) (others : Directory)
  | link (name : FileName) (target : Path) (others : Directory)
  | subdirectory (name : FileName) (inner others : Directory)

/-- What a name in a directory stands for. -/
inductive Node where
  | file (content : Content)
  | link (target : Path)
  | directory (inner : Directory)

namespace Directory

/-- The directory with another entry before the others. -/
def cons (name : FileName) (node : Node) (others : Directory) : Directory :=
  match node with
  | .file content => file name content others
  | .link target => link name target others
  | .directory inner => subdirectory name inner others

/-- What the name stands for. -/
def node? (directory : Directory) (name : FileName) : Option Node :=
  match directory with
  | empty => none
  | file first content others =>
    if first = name then some (.file content) else others.node? name
  | link first target others =>
    if first = name then some (.link target) else others.node? name
  | subdirectory first inner others =>
    if first = name then some (.directory inner) else others.node? name

/-- The directory with a node under a name, in place of what was there. -/
def set (directory : Directory) (name : FileName) (node : Node) : Directory :=
  match directory with
  | empty => cons name node empty
  | file first content others =>
    if first = name then cons name node others else file first content (others.set name node)
  | link first target others =>
    if first = name then cons name node others else link first target (others.set name node)
  | subdirectory first inner others =>
    if first = name then cons name node others
    else subdirectory first inner (others.set name node)

theorem node?_cons (name other : FileName) (node : Node) (others : Directory) :
    (cons name node others).node? other =
      if name = other then some node else others.node? other := by
  cases node <;> rfl

/-- **A name stands for what was put there last.** -/
theorem node?_set (directory : Directory) (name other : FileName) (node : Node) :
    (directory.set name node).node? other =
      if name = other then some node else directory.node? other := by
  fun_induction set directory name node <;> grind [node?, node?_cons]

end Directory

/-- A directory together with the way to it. -/
structure Trail where
  here : Directory
  /-- The directories above, the nearest first, each with the name that leads
  down from it. -/
  above : List (FileName × Directory) := []

namespace Trail

/-- Down to a directory that is here under a name. -/
def enter (trail : Trail) (name : FileName) (inner : Directory) : Trail :=
  ⟨inner, (name, trail.here) :: trail.above⟩

/-- Up to the directory above, with this one in its place there.  Nothing is
above the uppermost. -/
def leave (trail : Trail) : Trail :=
  match trail.above with
  | [] => trail
  | (name, outer) :: above => ⟨outer.set name (.directory trail.here), above⟩

/-- The uppermost directory over one, with that one in its place. -/
def topOver (here : Directory) : List (FileName × Directory) → Directory
  | [] => here
  | (name, outer) :: above => topOver (outer.set name (.directory here)) above

/-- Up to the uppermost directory. -/
def root (trail : Trail) : Trail :=
  ⟨topOver trail.here trail.above, []⟩

/-- The trail with a node put under a name here. -/
def set (trail : Trail) (name : FileName) (node : Node) : Trail :=
  { trail with here := trail.here.set name node }

/-- What was entered and left again is in its place. -/
theorem leave_enter (trail : Trail) (name : FileName) (inner : Directory) :
    (trail.enter name inner).leave = trail.set name (.directory inner) := rfl

@[simp] theorem root_leave (trail : Trail) : trail.leave.root = trail.root := by
  obtain ⟨here, _ | ⟨⟨name, outer⟩, above⟩⟩ := trail <;> rfl

end Trail
end SymbolAnnotations
