import MemoryTimeline.Json.Reader
import MemoryTimeline.Program.Entry

/-!
# Reading a program

`Program.ofJson` unwraps one of four envelopes and reads the nodes inside. Reading
a node never fails: what is not an object is dropped, and an object whose tag or
declarators cannot be read becomes an unknown node that keeps its children.
`Program.ofText` and `Program.ofBytes` add the text and byte layers, whose
failures are the only others.
-/

namespace MemoryTimeline.Program

/-- The tag of a node, empty where there is none. -/
def tagText (fields : List (String × Json)) : String :=
  ((fields.lookup "type").bind Json.str?).getD ""

/-- A field of a node, null where it is missing. -/
def fieldOf (fields : List (String × Json)) (key : String) : Json :=
  (fields.lookup key).getD .null

/-- The tag of a node that can be read as what its tag says. Only the declarators of a
declaration can be unreadable. -/
def readableTag? (fields : List (String × Json)) : Option Tag :=
  match Tag.ofText? (tagText fields) with
  | some .declaration =>
    (Declarator.list? (fields.lookup "declarations")).map fun _ => .declaration
  | tag => tag

/-- The name of a main function, which may be left out. -/
def mainName (name : String) : String := if name.isEmpty then "main" else name

mutual

/-- Read a node. -/
def Node.ofJson? : Json → Option Node
  | .obj fields =>
    let get := fieldOf fields
    match readableTag? fields with
    | none =>
      some (.unknown (tagText fields) ((nodesAt? "body" fields).getD [])
        ((nodesAt? "members" fields).getD []))
    | some .declaration =>
      some (.declaration
        { declarators := (Declarator.list? (fields.lookup "declarations")).getD []
          scope := Field.text? (get "scope")
          line := Field.counter? (get "line") })
    | some .assignment =>
      some (.assignment
        { name := Field.text (get "name")
          value := get "value"
          scope := Field.text? (get "scope")
          id := Field.present? (get "id")
          line := Field.counter? (get "line") })
    | some .memberAssignment =>
      some (.memberAssignment
        { object := (Field.reference? (get "object")).getD ""
          member := Field.text (get "member")
          value := get "value"
          scope := Field.text? (get "scope")
          pointerAccess := Field.flag (get "pointer_access")
          line := Field.counter? (get "line") })
    | some .classDeclaration =>
      some (.classDeclaration
        { name := Field.text (get "name")
          members := membersAt "members" fields
          line := Field.counter? (get "line") })
    | some .objectDeclaration =>
      some (.objectDeclaration
        { name := Field.text? (get "name")
          objectName := Field.text? (get "object_name")
          classType := Field.text (get "class_type")
          scope := Field.text? (get "scope")
          args := Argument.list (get "arg_param_map")
          id := Field.present? (get "id")
          line := Field.counter? (get "line") })
    | some .functionDeclaration =>
      some (.functionDeclaration
        { name := Field.text (get "name")
          params := Parameter.list (get "params")
          body := (nodesAt? "body" fields).getD []
          returnType := Field.text? (get "return_type")
          line := Field.counter? (get "line") })
    | some .mainFunction =>
      some (.mainFunction
        { name := mainName (Field.text (get "name"))
          params := Parameter.list (get "params")
          body := (nodesAt? "body" fields).getD []
          returnType := Field.text? (get "return_type")
          line := Field.counter? (get "line") })
    | some .functionCall =>
      some (.functionCall
        { name := Field.text (get "name")
          args := Argument.list (get "arg_param_map")
          body := (nodesAt? "body" fields).getD []
          scope := Field.text? (get "scope")
          line := Field.counter? (get "line") })
    | some .methodCall =>
      some (.methodCall
        { receiver := Field.receiver (get "object")
          method := Field.text (get "method")
          args := Argument.list (get "arg_param_map")
          scope := Field.text? (get "scope")
          line := Field.counter? (get "line") })
    | some .classPointer =>
      some (.classPointer
        { name := Field.text (get "name")
          classType := Field.text? (get "class_type")
          allocatedType := Field.text? (get "allocated_type")
          allocation := Field.text? (get "allocation")
          scope := Field.text? (get "scope")
          args := Argument.list (get "arg_param_map")
          id := Field.present? (get "id")
          line := Field.counter? (get "line") })
    | some .ifStatement =>
      some (.ifStatement (nodesAt? "if_body" fields) (nodesAt? "else_body" fields)
        (Field.counter? (get "line")))
    | some .whileStatement =>
      some (.whileStatement (nodesAt? "body" fields) (Field.counter? (get "line")))
  | _ => none

/-- Read the nodes among the items of an array. -/
def nodesOf : List Json → List Node
  | [] => []
  | item :: rest =>
    match Node.ofJson? item with
    | some node => node :: nodesOf rest
    | none => nodesOf rest

/-- Read the nodes of a value that is an array. -/
def nodesIn? : Json → Option (List Node)
  | .arr items => some (nodesOf items)
  | _ => none

/-- Read the nodes of a field that is an array. -/
def nodesAt? (key : String) : List (String × Json) → Option (List Node)
  | [] => none
  | (name, value) :: rest => if key == name then nodesIn? value else nodesAt? key rest

/-- Read the nodes of an item that is an array. -/
def nodesOfItem (position : Nat) : List Json → List Node
  | [] => []
  | item :: rest =>
    match position with
    | 0 => (nodesIn? item).getD []
    | position + 1 => nodesOfItem position rest

/-- Read a member. -/
def memberOfJson? : Json → Option (Member Node)
  | .obj fields => some (Member.ofEntry (.named fields) ((nodesAt? "body" fields).getD []))
  | .arr items =>
    if items.length ≤ Member.keys.length then
      some (Member.ofEntry (.positional items) (nodesOfItem (Member.keys.idxOf "body") items))
    else none
  | _ => none

/-- Read the members among the items of an array. -/
def membersOf : List Json → List (Member Node)
  | [] => []
  | item :: rest =>
    match memberOfJson? item with
    | some member => member :: membersOf rest
    | none => membersOf rest

/-- Read the members of a value that is an array. -/
def membersIn : Json → List (Member Node)
  | .arr items => membersOf items
  | _ => []

/-- Read the members of a field that is an array. -/
def membersAt (key : String) : List (String × Json) → List (Member Node)
  | [] => []
  | (name, value) :: rest => if key == name then membersIn value else membersAt key rest

end

/-- Why a document could not be loaded. -/
inductive LoadError where
  /-- The bytes are missing or are not UTF-8. -/
  | unreadable
  /-- The text is not JSON. -/
  | notJson
  /-- The value is in none of the envelopes; the description says what it is. -/
  | unrecognizedShape (found : String)

/-- What a value is called in a message about its shape. -/
def shapeName : Json → String
  | .null => "null"
  | .bool _ => "boolean"
  | .int _ => "number"
  | .real _ => "number"
  | .str _ => "string"
  | .arr _ => "array"
  | .obj _ => "object without a node array"

/-- The message of an error that has one of its own. -/
def LoadError.message? : LoadError → Option String
  | .unrecognizedShape found =>
    some ("unrecognized document shape: expected a node array, or an object with "
      ++ "`ast`, `analysis.ast` or `blocks` (found " ++ found ++ ")")
  | _ => none

/-- The node array of a document: the document itself, or the first array among
`ast`, `analysis.ast` and `blocks`. -/
def envelope? (document : Json) : Option (List Json) :=
  match document with
  | .arr items => some items
  | _ =>
    [document.field? "ast", (document.field? "analysis").bind (Json.field? "ast"),
      document.field? "blocks"].findSome? fun candidate => candidate.bind Json.items?

/-- Read a program from a JSON value. -/
def ofJson (document : Json) : Except LoadError Program :=
  match envelope? document with
  | some items => .ok ⟨nodesOf items⟩
  | none => .error (.unrecognizedShape (shapeName document))

/-- Read a program from a text. -/
def ofText (text : String) : Except LoadError Program :=
  match Json.read? text with
  | some document => ofJson document
  | none => .error .notJson

/-- Read a program from the bytes of a file, if the file exists. -/
def ofBytes (bytes : Option ByteArray) : Except LoadError Program :=
  match bytes.bind String.fromUTF8? with
  | some text => ofText text
  | none => .error .unreadable

end MemoryTimeline.Program
