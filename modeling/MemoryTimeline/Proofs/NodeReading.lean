import Mathlib.Data.List.Forall2
import Mathlib.Logic.Relation
import MemoryTimeline.Program.Decoding

/-!
# What a JSON value is read as

Every object is read as a node, and nothing else is (`Node.isSome_ofJson?`). The tag decides
which node it is, and only a declaration can fail to be what its tag says
(`readableTag?_of_tagged`, `readableTag?_declaration`). The lists inside a node are read from
the arrays inside its object (`Node.ChildrenRead`); the mutual recursion is opened once, in
the equations that say where each list comes from. What holds of one node then holds of the
nodes inside it, by induction over the way down (`Node.exists_obj_of_contains`).
-/

namespace MemoryTimeline

namespace Json

/-- Whether the value is an object. -/
def isObject : Json → Bool
  | .obj _ => true
  | _ => false

/-- A value stands right inside another, as an item or as the value of a field. -/
inductive Inside : Json → Json → Prop
  | item {items : List Json} {value : Json} : value ∈ items → Inside (.arr items) value
  | field {fields : List (String × Json)} {key : String} {value : Json} :
      fields.lookup key = some value → Inside (.obj fields) value

/-- A value is another or stands inside it, at any depth. -/
def Contains : Json → Json → Prop := Relation.ReflTransGen Inside

theorem isObject_iff {value : Json} : value.isObject = true ↔ ∃ fields, value = .obj fields := by
  cases value <;> simp [isObject]

theorem items?_eq_some_iff {value : Json} {items : List Json} :
    value.items? = some items ↔ value = .arr items := by
  cases value <;> simp [items?]

end Json

namespace Program

/-- The texts that name a kind of node. -/
def Tag.spellings : Tag → List String
  | .declaration => ["declaration"]
  | .assignment => ["assignment"]
  | .memberAssignment => ["member_assignment"]
  | .classDeclaration => ["class_declaration"]
  | .objectDeclaration => ["object_declaration"]
  | .functionDeclaration => ["function_declaration", "function declaration"]
  | .mainFunction => ["main_function", "the standard Main_Function"]
  | .functionCall => ["function_call"]
  | .methodCall => ["method_call"]
  | .classPointer => ["class_pointer_declaration"]
  | .ifStatement => ["if_statement"]
  | .whileStatement => ["while_statement"]

/-- A text that names a kind of node: one of its spellings, with blanks around it. -/
def Tag.NamedBy (tag : Tag) (text : String) : Prop :=
  ∃ spelling ∈ tag.spellings, ∃ before after, text.toList = before ++ spelling.toList ++ after ∧
    (∀ character ∈ before, Text.isBlank character = true) ∧
    ∀ character ∈ after, Text.isBlank character = true

/-- No spelling begins or ends with a blank. -/
theorem Tag.not_isBlank_of_mem_spellings {tag : Tag} {spelling : String}
    (spelled : spelling ∈ tag.spellings) :
    (∀ character ∈ spelling.toList.head?, Text.isBlank character = false) ∧
      ∀ character ∈ spelling.toList.getLast?, Text.isBlank character = false := by
  have ends : ∀ spelling ∈ tag.spellings, spelling.toList.head?.any Text.isBlank = false ∧
      spelling.toList.getLast?.any Text.isBlank = false := by cases tag <;> decide
  simpa [Option.any_eq_false] using ends spelling spelled

/-- A text names a tag exactly if trimming leaves a spelling of it. -/
theorem Tag.namedBy_iff {tag : Tag} {text : String} :
    tag.NamedBy text ↔ Text.trim text ∈ tag.spellings := by
  constructor
  · rintro ⟨spelling, spelled, before, after, split, blankBefore, blankAfter⟩
    have trimmed : Text.trim text = spelling :=
      Text.trim_eq_iff.mpr ⟨before, after, split, blankBefore, blankAfter,
        Tag.not_isBlank_of_mem_spellings spelled⟩
    rwa [trimmed]
  · intro spelled
    obtain ⟨before, after, split, blankBefore, blankAfter, _⟩ := Text.trim_eq_iff.mp (Eq.refl _)
    exact ⟨_, spelled, before, after, split, blankBefore, blankAfter⟩

/-- A tag is read from a text exactly if the text names it. -/
theorem Tag.ofText?_eq_some_iff {text : String} {tag : Tag} :
    Tag.ofText? text = some tag ↔ tag.NamedBy text := by
  rw [Tag.namedBy_iff, Tag.ofText?]
  generalize Text.trim text = trimmed
  constructor
  · intro named
    split at named <;> cases named <;> decide
  · intro spelled
    -- Two kinds of node have a second spelling.
    cases tag <;> simp only [spellings, List.mem_cons, List.not_mem_nil, or_false] at spelled
    case functionDeclaration => obtain rfl | rfl := spelled <;> rfl
    case mainFunction => obtain rfl | rfl := spelled <;> rfl
    all_goals
      subst spelled
      rfl

section Tags

variable {fields : List (String × Json)} {tag : Tag}

/-- The `type` field is a text that names the tag. -/
def Tagged (fields : List (String × Json)) (tag : Tag) : Prop :=
  ∃ text, fields.lookup "type" = some (.str text) ∧ tag.NamedBy text

/-- There are declarators that cannot be read: they are in no array, or one of them is
neither an object nor an array with at most one item for each field. -/
def UnreadableDeclarators (fields : List (String × Json)) : Prop :=
  ∃ value, fields.lookup "declarations" = some value ∧
    ∀ items, value = .arr items → ∃ item ∈ items, item.isObject = false ∧
      ∀ values, item = .arr values → 11 < values.length

/-- The tag of an object is that of its `type` field. Where there is no text, no tag is named. -/
theorem ofText?_tagText_eq_some_iff :
    Tag.ofText? (tagText fields) = some tag ↔ Tagged fields tag := by
  have unnamed : Tag.ofText? "" ≠ some tag := by
    rw [Ne, Tag.ofText?_eq_some_iff, Tag.namedBy_iff]
    cases tag <;> decide
  rw [tagText, Tagged]
  cases fields.lookup "type" with
  | none => simpa using unnamed
  | some value =>
      cases value with
      | str text => simp [Json.str?, Tag.ofText?_eq_some_iff]
      | _ => simpa [Json.str?] using unnamed

/-- A declarator is read from an object, or from an array that has a place for each of its items. -/
theorem Entry.ofJson?_declarator_eq_none_iff {item : Json} :
    Entry.ofJson? Declarator.keys item = none ↔
      item.isObject = false ∧ ∀ values, item = .arr values → 11 < values.length := by
  have keyCount : Declarator.keys.length = 11 := rfl
  cases item <;> simp [Entry.ofJson?, Json.isObject, keyCount]

/-- One failure among the items of a list spoils the whole. -/
theorem mapM_eq_none_iff {Item Result : Type} {read : Item → Option Result} {items : List Item} :
    items.mapM read = none ↔ ∃ item ∈ items, read item = none := by
  induction items with
  | nil => simp
  | cons item rest inductionHypothesis =>
      simp only [List.mapM_cons, List.mem_cons, exists_eq_or_imp, ← inductionHypothesis]
      cases read item <;> cases rest.mapM read <;> simp

/-- Reading the declarators fails exactly for the lists that are unreadable. -/
theorem Declarator.list?_eq_none_iff :
    Declarator.list? (fields.lookup "declarations") = none ↔ UnreadableDeclarators fields := by
  rw [UnreadableDeclarators]
  cases fields.lookup "declarations" with
  | none => simp [Declarator.list?]
  | some value =>
      cases value with
      | arr items =>
          simp [Declarator.list?, mapM_eq_none_iff, Entry.ofJson?_declarator_eq_none_iff]
      | _ => simp [Declarator.list?]

/-- Any other tag than that of a declaration is taken as it stands. -/
theorem readableTag?_of_tagged (tagged : Tagged fields tag) (other : tag ≠ .declaration) :
    readableTag? fields = some tag := by
  rw [readableTag?, ofText?_tagText_eq_some_iff.mpr tagged]
  cases tag with
  | declaration => contradiction
  | _ => rfl

/-- A declaration is read as one if its declarators can be read. -/
theorem readableTag?_declaration (tagged : Tagged fields .declaration) :
    readableTag? fields =
      (Declarator.list? (fields.lookup "declarations")).map fun _ => .declaration := by
  rw [readableTag?, ofText?_tagText_eq_some_iff.mpr tagged]

/-- An object whose `type` names no tag is no node of a known kind. -/
theorem readableTag?_of_not_tagged (untagged : ∀ tag, ¬ Tagged fields tag) :
    readableTag? fields = none := by
  have unnamed : Tag.ofText? (tagText fields) = none := by
    rw [Option.eq_none_iff_forall_ne_some]
    intro tag named
    exact untagged tag (ofText?_tagText_eq_some_iff.mp named)
  rw [readableTag?, unnamed]

end Tags

/-- The kind of a node, none where it is unknown. -/
def Node.tag? : Node → Option Tag
  | .declaration _ => some .declaration
  | .assignment _ => some .assignment
  | .memberAssignment _ => some .memberAssignment
  | .classDeclaration _ => some .classDeclaration
  | .objectDeclaration _ => some .objectDeclaration
  | .functionDeclaration _ => some .functionDeclaration
  | .mainFunction _ => some .mainFunction
  | .functionCall _ => some .functionCall
  | .methodCall _ => some .methodCall
  | .classPointer _ => some .classPointer
  | .ifStatement .. => some .ifStatement
  | .whileStatement .. => some .whileStatement
  | .unknown .. => none

/-- The nodes right inside a node. -/
def Node.children : Node → List Node
  | .classDeclaration definition => definition.members.flatMap (·.body)
  | .functionDeclaration function => function.body
  | .mainFunction function => function.body
  | .functionCall call => call.body
  | .ifStatement thenBody elseBody _ => thenBody.getD [] ++ elseBody.getD []
  | .whileStatement body _ => body.getD []
  | .unknown _ body members => body ++ members
  | _ => []

/-- A node is another or stands inside it, at any depth. -/
def Node.Contains : Node → Node → Prop :=
  Relation.ReflTransGen fun outer inner => inner ∈ outer.children

/-- The nodes are the readings of the objects among the items, in order. -/
def ReadItems (items : List Json) (nodes : List Node) : Prop :=
  List.Forall₂ (fun item node => Node.ofJson? item = some node) (items.filter Json.isObject) nodes

/-- A member is the reading of an entry, its statements those of the body of the entry. -/
def ReadMember (value : Json) (member : Member Node) : Prop :=
  ∃ entry, Entry.ofJson? Member.keys value = some entry ∧
    member = Member.ofEntry entry member.body ∧
    ReadItems ((entry.get Member.keys "body").items?.getD []) member.body

/-- The lists inside a node are read from the arrays inside its object. A field that is no
array gives no list, or the empty one where the node must have a list. -/
def Node.ChildrenRead (fields : List (String × Json)) : Node → Prop
  | .classDeclaration definition =>
      List.Forall₂ ReadMember
        (((fieldOf fields "members").items?.getD []).filter fun item =>
          (Entry.ofJson? Member.keys item).isSome)
        definition.members
  | .functionDeclaration function =>
      ReadItems ((fieldOf fields "body").items?.getD []) function.body
  | .mainFunction function => ReadItems ((fieldOf fields "body").items?.getD []) function.body
  | .functionCall call => ReadItems ((fieldOf fields "body").items?.getD []) call.body
  | .ifStatement thenBody elseBody _ =>
      Option.Rel ReadItems (fieldOf fields "if_body").items? thenBody ∧
        Option.Rel ReadItems (fieldOf fields "else_body").items? elseBody
  | .whileStatement body _ => Option.Rel ReadItems (fieldOf fields "body").items? body
  | .unknown _ body members =>
      ReadItems ((fieldOf fields "body").items?.getD []) body ∧
        ReadItems ((fieldOf fields "members").items?.getD []) members
  | _ => True

/-- What an object is read as. -/
structure Node.ReadAs (fields : List (String × Json)) (node : Node) : Prop where
  recognised : ∀ tag, Tagged fields tag → tag ≠ .declaration → node.tag? = some tag
  declaration : Tagged fields .declaration →
    (node.tag? = none ∨ node.tag? = some .declaration) ∧
      (node.tag? = none ↔ UnreadableDeclarators fields)
  unrecognised : (∀ tag, ¬ Tagged fields tag) → node.tag? = none
  rawTag : ∀ kind body members, node = .unknown kind body members → kind = tagText fields
  childrenRead : node.ChildrenRead fields

/-- Objects are read, and nothing else is. -/
theorem Node.isSome_ofJson? (value : Json) : (Node.ofJson? value).isSome = value.isObject := by
  cases value with
  | obj fields =>
      rw [Node.ofJson?]
      cases readableTag? fields with
      | none => rfl
      | some tag => cases tag <;> rfl
  | _ => simp [Node.ofJson?, Json.isObject]

/-- Reading a node fails for what is no object, and for nothing else. -/
theorem Node.ofJson?_eq_none_iff {value : Json} :
    Node.ofJson? value = none ↔ ∀ fields, value ≠ .obj fields := by
  rw [← Option.not_isSome_iff_eq_none, Node.isSome_ofJson?, Json.isObject_iff, not_exists]

/-- What was read as a node is an object. -/
theorem Node.exists_fields_of_ofJson? {value : Json} {node : Node}
    (read : Node.ofJson? value = some node) : ∃ fields, value = .obj fields := by
  rw [← Json.isObject_iff, ← Node.isSome_ofJson?, read]
  rfl

/-- The items of an array are read one by one, and those that are no objects left out. -/
theorem readItems_nodesOf (items : List Json) : ReadItems items (nodesOf items) := by
  induction items with
  | nil => exact .nil
  | cons item rest inductionHypothesis =>
      rw [nodesOf, ReadItems, List.filter_cons, ← Node.isSome_ofJson?]
      cases read : Node.ofJson? item with
      | none => simpa [ReadItems] using inductionHypothesis
      | some node => exact .cons read inductionHypothesis

/-- The nodes in a value are those of its items. -/
theorem nodesIn?_eq (value : Json) : nodesIn? value = value.items?.map nodesOf := by
  cases value <;> simp [nodesIn?, Json.items?]

/-- The nodes at a key are those in the field that a look-up of the key finds. -/
theorem nodesAt?_eq (key : String) (fields : List (String × Json)) :
    nodesAt? key fields = nodesIn? (fieldOf fields key) := by
  induction fields with
  | nil => simp [nodesAt?, fieldOf, nodesIn?]
  | cons field rest inductionHypothesis =>
      obtain ⟨name, value⟩ := field
      rw [nodesAt?, inductionHypothesis, fieldOf, fieldOf, List.lookup_cons]
      cases key == name <;> simp

/-- The nodes at a position are those in the item there, and none beyond the last item. -/
theorem nodesOfItem_eq (position : Nat) (items : List Json) :
    nodesOfItem position items = (nodesIn? (items.getD position .null)).getD [] := by
  induction items generalizing position with
  | nil => simp [nodesOfItem, nodesIn?]
  | cons item rest inductionHypothesis =>
      cases position with
      | zero => simp [nodesOfItem]
      | succ position => simp [nodesOfItem, inductionHypothesis]

/-- A value is read as a list of nodes exactly if it is an array. -/
theorem rel_nodesIn? (value : Json) : Option.Rel ReadItems value.items? (nodesIn? value) := by
  rw [nodesIn?_eq]
  cases value.items? with
  | none => exact .none
  | some items => exact .some (readItems_nodesOf items)

theorem ReadItems.getD {items? : Option (List Json)} {nodes? : Option (List Node)}
    (read : Option.Rel ReadItems items? nodes?) : ReadItems (items?.getD []) (nodes?.getD []) := by
  cases read with
  | some read => exact read
  | none => exact .nil

/-- A member is read from an entry, whichever of the two forms the entry has. -/
theorem memberOfJson?_eq (value : Json) :
    memberOfJson? value = (Entry.ofJson? Member.keys value).map fun entry =>
      Member.ofEntry entry ((nodesIn? (entry.get Member.keys "body")).getD []) := by
  cases value with
  | obj fields => simp [memberOfJson?, Entry.ofJson?, nodesAt?_eq, fieldOf, Entry.get]
  | arr items =>
      simp only [memberOfJson?, Entry.ofJson?, nodesOfItem_eq]
      split <;> rfl
  | _ => simp [memberOfJson?, Entry.ofJson?]

/-- A member that was read has the statements of the body of its entry. -/
theorem readMember_of_memberOfJson? {value : Json} {member : Member Node}
    (read : memberOfJson? value = some member) : ReadMember value member := by
  rw [memberOfJson?_eq, Option.map_eq_some_iff] at read
  obtain ⟨entry, isEntry, rfl⟩ := read
  exact ⟨entry, isEntry, rfl, .getD (rel_nodesIn? _)⟩

/-- The members are the readings of the items that are entries, in order. -/
theorem forall₂_membersOf (items : List Json) :
    List.Forall₂ ReadMember (items.filter fun item => (Entry.ofJson? Member.keys item).isSome)
      (membersOf items) := by
  induction items with
  | nil => exact .nil
  | cons item rest inductionHypothesis =>
      have sameItems : (memberOfJson? item).isSome = (Entry.ofJson? Member.keys item).isSome := by
        rw [memberOfJson?_eq, Option.isSome_map]
      rw [membersOf, List.filter_cons, ← sameItems]
      cases read : memberOfJson? item with
      | none => simpa using inductionHypothesis
      | some member => exact .cons (readMember_of_memberOfJson? read) inductionHypothesis

/-- The members at a key are read from the items of the field that a look-up finds. -/
theorem membersAt_eq (key : String) (fields : List (String × Json)) :
    membersAt key fields = membersOf ((fieldOf fields key).items?.getD []) := by
  induction fields with
  | nil => simp [membersAt, membersOf, fieldOf, Json.items?]
  | cons field rest inductionHypothesis =>
      obtain ⟨name, value⟩ := field
      rw [membersAt, inductionHypothesis, fieldOf, fieldOf, List.lookup_cons]
      cases key == name with
      | false => simp
      | true => cases value <;> simp [membersIn, membersOf, Json.items?]

/-- An object is read, as the kind of node that its tag allows and with lists of the nodes
in its arrays. -/
theorem Node.exists_ofJson?_obj (fields : List (String × Json)) :
    ∃ node, Node.ofJson? (.obj fields) = some node ∧ node.tag? = readableTag? fields ∧
      (∀ kind body members, node = .unknown kind body members → kind = tagText fields) ∧
      node.ChildrenRead fields := by
  have list (key : String) : Option.Rel ReadItems (fieldOf fields key).items?
      (nodesAt? key fields) := nodesAt?_eq key fields ▸ rel_nodesIn? _
  have members := membersAt_eq "members" fields ▸ forall₂_membersOf _
  -- The readable tag alone decides which node is built, so its cases are the only ones.
  rw [Node.ofJson?]
  cases readableTag? fields with
  | none =>
      refine ⟨_, rfl, rfl, ?_, .getD (list "body"), .getD (list "members")⟩
      rintro kind body members ⟨⟩
      rfl
  | some tag =>
      cases tag with
      | classDeclaration => exact ⟨_, rfl, rfl, nofun, members⟩
      | functionDeclaration => exact ⟨_, rfl, rfl, nofun, .getD (list "body")⟩
      | mainFunction => exact ⟨_, rfl, rfl, nofun, .getD (list "body")⟩
      | functionCall => exact ⟨_, rfl, rfl, nofun, .getD (list "body")⟩
      | ifStatement => exact ⟨_, rfl, rfl, nofun, list "if_body", list "else_body"⟩
      | whileStatement => exact ⟨_, rfl, rfl, nofun, list "body"⟩
      | _ => exact ⟨_, rfl, rfl, nofun, trivial⟩

/-- An object is read, and what it is read as depends on its tag and its declarators. -/
theorem Node.exists_readAs (fields : List (String × Json)) :
    ∃ node, Node.ofJson? (.obj fields) = some node ∧ node.ReadAs fields := by
  obtain ⟨node, read, sameTag, rawTag, childrenRead⟩ := Node.exists_ofJson?_obj fields
  refine ⟨node, read, ?_⟩
  constructor
  case recognised =>
    intro tag tagged other
    rw [sameTag, readableTag?_of_tagged tagged other]
  case declaration =>
    intro tagged
    rw [sameTag, readableTag?_declaration tagged, Option.map_eq_none_iff,
      ← Declarator.list?_eq_none_iff]
    refine ⟨?_, Iff.rfl⟩
    cases Declarator.list? (fields.lookup "declarations") with
    | none => exact .inl rfl
    | some => exact .inr rfl
  case unrecognised =>
    intro untagged
    rw [sameTag, readableTag?_of_not_tagged untagged]
  case rawTag => exact rawTag
  case childrenRead => exact childrenRead

/-- There is only one reading of an object, so it is the one that exists. -/
theorem Node.readAs_of_ofJson? {fields : List (String × Json)} {node : Node}
    (read : Node.ofJson? (.obj fields) = some node) : node.ReadAs fields := by
  obtain ⟨same, readAgain, readAs⟩ := Node.exists_readAs fields
  obtain rfl := Option.some.inj (readAgain.symm.trans read)
  exact readAs

section Depth

variable {fields : List (String × Json)} {items : List Json} {nodes : List Node} {node : Node}

/-- Where results were read from sources in order, each of them has a source. -/
theorem exists_mem_of_forall₂ {Source Result : Type} {Reads : Source → Result → Prop}
    {sources : List Source} {results : List Result} {result : Result}
    (read : List.Forall₂ Reads sources results) (member : result ∈ results) :
    ∃ source ∈ sources, Reads source result := by
  induction read with
  | nil => contradiction
  | cons first _ inductionHypothesis =>
      obtain rfl | inRest := List.mem_cons.mp member
      · exact ⟨_, List.mem_cons_self, first⟩
      · obtain ⟨source, isSource, reads⟩ := inductionHypothesis inRest
        exact ⟨source, List.mem_cons_of_mem _ isSource, reads⟩

/-- A node that was read from an item is the reading of an object. -/
theorem ReadItems.exists_obj (read : ReadItems items nodes) (member : node ∈ nodes) :
    ∃ fields, .obj fields ∈ items ∧ Node.ofJson? (.obj fields) = some node := by
  obtain ⟨item, isItem, readItem⟩ := exists_mem_of_forall₂ read member
  obtain ⟨fields, rfl⟩ := Node.exists_fields_of_ofJson? readItem
  exact ⟨fields, (List.mem_filter.mp isItem).1, readItem⟩

/-- An array in a field of an entry stands right inside the entry. -/
theorem Entry.inside_of_get_eq_arr {keys : Entry.Keys} {key : String} {value : Json}
    {entry : Entry} (isEntry : Entry.ofJson? keys value = some entry)
    (array : entry.get keys key = .arr items) : value.Inside (.arr items) := by
  have present {value? : Option Json} (given : value?.getD .null = .arr items) :
      value? = some (.arr items) := by
    cases value? with
    | none => contradiction
    | some _ => exact congrArg some given
  cases value with
  | obj fields =>
      cases isEntry
      exact .field (present array)
  | arr values =>
      obtain ⟨_, rfl⟩ : values.length ≤ keys.length ∧ .positional values = entry := by
        simpa [Entry.ofJson?] using isEntry
      rw [Entry.get, List.getD_eq_getElem?_getD] at array
      exact .item (List.mem_of_getElem? (present array))
  | _ => contradiction

/-- The items of an array in a field of an entry stand inside the entry. -/
theorem Entry.contains_item {keys : Entry.Keys} {key : String} {value item : Json} {entry : Entry}
    (isEntry : Entry.ofJson? keys value = some entry)
    (member : item ∈ (entry.get keys key).items?.getD []) : value.Contains item := by
  cases array : (entry.get keys key).items? with
  | none =>
      rw [array] at member
      contradiction
  | some items =>
      rw [array] at member
      have inside := Entry.inside_of_get_eq_arr isEntry (Json.items?_eq_some_iff.mp array)
      exact .tail (.single inside) (.item member)

/-- One step down: a child is the reading of an object inside the object of its parent. -/
theorem Node.ChildrenRead.exists_obj {child : Node} (read : node.ChildrenRead fields)
    (isChild : child ∈ node.children) :
    ∃ inner, (Json.obj fields).Contains (.obj inner) ∧ Node.ofJson? (.obj inner) = some child := by
  have inObject {key : String} {item : Json}
      (member : item ∈ (fieldOf fields key).items?.getD []) : (Json.obj fields).Contains item := by
    have named : Entry.ofJson? [] (.obj fields) = some (.named fields) := rfl
    exact Entry.contains_item named member
  have ofItems {key : String} {nodes : List Node}
      (read : ReadItems ((fieldOf fields key).items?.getD []) nodes) (member : child ∈ nodes) :
      ∃ inner, (Json.obj fields).Contains (.obj inner) ∧
        Node.ofJson? (.obj inner) = some child := by
    obtain ⟨inner, isItem, readInner⟩ := read.exists_obj member
    exact ⟨inner, inObject isItem, readInner⟩
  cases node with
  | classDeclaration definition =>
      obtain ⟨member, isMember, inBody⟩ := List.mem_flatMap.mp isChild
      obtain ⟨value, isValue, entry, isEntry, _, readBody⟩ := exists_mem_of_forall₂ read isMember
      obtain ⟨inner, isItem, readInner⟩ := readBody.exists_obj inBody
      have isEntryOf : value ∈ (fieldOf fields "members").items?.getD [] :=
        (List.mem_filter.mp isValue).1
      exact ⟨inner, (inObject isEntryOf).trans (Entry.contains_item isEntry isItem), readInner⟩
  | functionDeclaration function => exact ofItems read isChild
  | mainFunction function => exact ofItems read isChild
  | functionCall call => exact ofItems read isChild
  | ifStatement thenBody elseBody line =>
      obtain inThen | inElse := List.mem_append.mp isChild
      · exact ofItems (.getD read.1) inThen
      · exact ofItems (.getD read.2) inElse
  | whileStatement body line => exact ofItems (.getD read) isChild
  | unknown kind body members =>
      obtain inBody | inMembers := List.mem_append.mp isChild
      · exact ofItems read.1 inBody
      · exact ofItems read.2 inMembers
  | _ => contradiction

end Depth

/-- Every node inside the reading of a value is the reading of an object inside the value. -/
theorem Node.exists_obj_of_contains {value : Json} {node inner : Node}
    (read : Node.ofJson? value = some node) (contains : node.Contains inner) :
    ∃ fields, value.Contains (.obj fields) ∧ Node.ofJson? (.obj fields) = some inner := by
  induction contains with
  | refl =>
      obtain ⟨fields, rfl⟩ := Node.exists_fields_of_ofJson? read
      exact ⟨fields, .refl, read⟩
  | tail _ isChild inductionHypothesis =>
      obtain ⟨fields, inside, readParent⟩ := inductionHypothesis
      have childrenRead := (Node.readAs_of_ofJson? readParent).childrenRead
      obtain ⟨inner, deeper, readChild⟩ := childrenRead.exists_obj isChild
      exact ⟨inner, inside.trans deeper, readChild⟩

/-- Reading a node never fails but for what is no object, and the tag decides what an object
is read as, whatever its other fields are. Only a declaration whose declarators cannot be
read becomes an unknown node in spite of its tag. All lists of a node, and of the nodes
inside it at any depth, are the readings of the objects in arrays of the value, in order. -/
theorem Node.reading_characterized (value : Json) :
    (Node.ofJson? value = none ↔ ∀ fields, value ≠ .obj fields) ∧
      (∀ fields, value = .obj fields →
        ∃ node, Node.ofJson? value = some node ∧ node.ReadAs fields) ∧
      ∀ node, Node.ofJson? value = some node → ∀ inner, node.Contains inner →
        ∃ fields, value.Contains (.obj fields) ∧
          Node.ofJson? (.obj fields) = some inner ∧ inner.ReadAs fields := by
  refine ⟨Node.ofJson?_eq_none_iff, ?_, ?_⟩
  · rintro fields rfl
    exact Node.exists_readAs fields
  · intro node read inner contains
    obtain ⟨fields, inside, readInner⟩ := Node.exists_obj_of_contains read contains
    exact ⟨fields, inside, readInner, Node.readAs_of_ofJson? readInner⟩

end Program

end MemoryTimeline
