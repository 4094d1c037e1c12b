import TableSeed.Json.Token

/-!
# JSON text as a tree

A tree holds a text as it is written: repeated members, numerals, and the place where reading
stops. A reader walks it in the order of the text, so it meets the first of several faults first,
and a fault of its own before one that stands later in the text.
-/

namespace TableSeed.Json

/-- JSON text by its structure. The stop of an array or object comes after what has been read of
it. -/
inductive Tree where
  | null
  | bool (b : Bool)
  | number (n : Numeral)
  | text (content : Option String)
  | array (items : List Tree) (stop : Option Stop)
  | object (members : List (Option String × Tree)) (stop : Option Stop)
  /-- Nothing could be read here. -/
  | stopped (stop : Stop)

namespace Tree

/-- An array or object being read, its parts in reverse. -/
inductive Opened where
  | array (items : List Tree)
  | object (members : List (Option String × Tree)) (name : Option String)

/-- What may come next. -/
inductive Expected where
  | value
  | valueOrClose
  | nameOrClose
  | name
  | colon
  | commaOrClose
  | nothing

/-- The builder: the containers around this place, innermost first. -/
structure Builder where
  stack : List Opened := []
  expected : Expected := .value
  /-- The tree of the whole text, once it is known. -/
  root : Option Tree := none
  /-- Whether something follows the whole text. -/
  excess : Bool := false

/-- Closes a container that is read in full. -/
def Opened.close (stop : Option Stop) : Opened → Tree
  | .array items => .array items.reverse stop
  | .object members _ => .object members.reverse stop

/-- The container with one more part. -/
def Opened.add (t : Tree) : Opened → Opened
  | .array items => .array (t :: items)
  | .object members name => .object ((name, t) :: members) none

/-- Puts a finished part where it belongs. -/
def Builder.add (b : Builder) (t : Tree) : Builder :=
  match b.stack with
  | [] => { b with expected := .nothing, root := some t }
  | o :: rest => { b with stack := o.add t :: rest, expected := .commaOrClose }

/-- Closes the innermost container. -/
def Builder.close (b : Builder) : Builder :=
  match b.stack with
  | [] => b
  | o :: rest => { b with stack := rest }.add (o.close none)

/-- The tree when reading stops inside the containers. -/
def enclose (t : Tree) (stop : Stop) : List Opened → Tree
  | [] => t
  | o :: rest => enclose ((o.add t).close (some stop)) stop rest

/-- Reading stops at a place where a part is due. -/
def Builder.stopAtPart (b : Builder) (stop : Stop) : Builder :=
  { b with stack := [], expected := .nothing, root := some (enclose (.stopped stop) stop b.stack) }

/-- Reading stops between the parts of the innermost container. -/
def Builder.stopBetween (b : Builder) (stop : Stop) : Builder :=
  match b.stack with
  | [] => b.stopAtPart stop
  | o :: rest =>
    { b with stack := [], expected := .nothing,
             root := some (enclose (o.close (some stop)) stop rest) }

/-- A token where a value is due. -/
def Builder.value (b : Builder) (t : Token) : Builder :=
  match t with
  | .null => b.add .null
  | .bool v => b.add (.bool v)
  | .number n => b.add (.number n)
  | .text s => b.add (.text s)
  | .openArray => { b with stack := .array [] :: b.stack, expected := .valueOrClose }
  | .openObject => { b with stack := .object [] none :: b.stack, expected := .nameOrClose }
  | .brokenText stop => b.stopAtPart stop
  | .broken f => b.stopAtPart (.both f)
  | _ => b.stopAtPart (.both .malformed)

/-- A token where the name of a member is due. -/
def Builder.name (b : Builder) (t : Token) : Builder :=
  match t, b.stack with
  | .text s, .object members _ :: rest =>
    { b with stack := .object members s :: rest, expected := .colon }
  | .brokenText stop, _ => b.stopBetween stop
  | _, _ => b.stopBetween (.both .malformed)

/-- One token. -/
def Builder.feed (b : Builder) (t : Token) : Builder :=
  match b.expected with
  | .value => b.value t
  | .valueOrClose =>
    match t with
    | .closeArray => b.close
    | .brokenText stop => b.stopBetween stop
    | .broken f => b.stopBetween (.both f)
    | t => b.value t
  | .nameOrClose =>
    match t with
    | .closeObject => b.close
    | t => b.name t
  | .name => b.name t
  | .colon =>
    match t with
    | .colon => { b with expected := .value }
    | _ => b.stopAtPart (.both .malformed)
  | .commaOrClose =>
    match t, b.stack with
    | .comma, .array _ :: _ => { b with expected := .value }
    | .comma, .object _ _ :: _ => { b with expected := .name }
    | .closeArray, .array _ :: _ => b.close
    | .closeObject, .object _ _ :: _ => b.close
    | _, _ => b.stopBetween (.both .malformed)
  | .nothing => { b with excess := true }

/-- The tree when the text ends here. -/
def Builder.finish (b : Builder) : Tree :=
  match b.root with
  | some t => t
  | none =>
    match b.expected with
    | .value | .colon => (b.stopAtPart (.both .truncated)).root.getD .null
    | _ => (b.stopBetween (.both .truncated)).root.getD .null

/-- The tree of a text, and whether something follows it. -/
def ofText (text : String) : Tree × Bool :=
  let b := (Token.ofChars text.toList).foldl Builder.feed {}
  (b.finish, b.excess)

mutual

/-- Skips a value: only what keeps the text from being read on is a fault. -/
def skip : Tree → Except Fault Unit
  | .array items stop => do skipItems items; skipStop stop
  | .object members stop => do skipMembers members; skipStop stop
  | .stopped stop => .error stop.skipped
  | _ => .ok ()

/-- Skips the items of an array. -/
def skipItems : List Tree → Except Fault Unit
  | [] => .ok ()
  | t :: rest => do skip t; skipItems rest

/-- Skips the members of an object. -/
def skipMembers : List (Option String × Tree) → Except Fault Unit
  | [] => .ok ()
  | (_, t) :: rest => do skip t; skipMembers rest

/-- The stop of a container met by a reader that skips it. -/
def skipStop : Option Stop → Except Fault Unit
  | none => .ok ()
  | some stop => .error stop.skipped

end

end Tree

end TableSeed.Json
