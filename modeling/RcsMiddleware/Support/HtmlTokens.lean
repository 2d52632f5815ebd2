import Mathlib.Data.List.Basic

/-!
# Support — HtmlTokens

How a browser cuts the text of HTML into tags: the tokenizer of the HTML standard, one character at
a time.  Where the standard reconsumes a character, the character takes both steps at once.
Character references are text: none of them takes a `<` or a `>` away.  A doctype ends at the first
`>`, as a bogus comment does, and is no tag either.

* `scan`: the tags of a text, and how it ends.
* `firstTag`: the first of them.
* `firstTag_name`: a tag that has begun ends under a name that its own name begins.
-/

namespace Support.Html

/-- A tag: its name in lower case, and its attributes as they are written. -/
structure Tag where
  isEnd : Bool
  name : List Char
  attributes : List Char
  deriving DecidableEq, Repr

/-- Where the tokenizer is among the attributes of a tag. -/
inductive AttributePlace where
  | beforeName | name | afterName | beforeValue | doubleQuoted | singleQuoted | unquoted
  | afterQuoted | selfClosing
  deriving DecidableEq, Repr

/-- Where the tokenizer is within a comment. -/
inductive CommentPlace where
  | start | startDash | body | lessThan | lessThanBang | lessThanBangDash | lessThanBangDashDash
  | endDash | endDashDash | endBang
  deriving DecidableEq, Repr

/-- The states of the tokenizer. -/
inductive Mode where
  | data
  | tagOpen
  | endTagOpen
  | tagName (tag : Tag)
  | attributes (tag : Tag) (place : AttributePlace)
  /-- After `<!`, and what has been read of `--` or `[CDATA[` since. -/
  | declaration (read : List Char)
  | comment (place : CommentPlace)
  | bogusComment
  deriving DecidableEq, Repr

/-- What the tokenizer reports. -/
inductive Event where
  | tag (tag : Tag)
  /-- A CDATA section begins, if the tree builder has it so. -/
  | cdata
  deriving DecidableEq, Repr

def isSpace (c : Char) : Bool :=
  c == '\t' || c == '\n' || c == '\x0c' || c == '\r' || c == ' '

/-- A character of a tag's name. -/
def nameChar (c : Char) : Char := if c = '\x00' then '\ufffd' else c.toLower

/-- The place after one character; `none` when the tag ends. -/
def AttributePlace.next : AttributePlace → Char → Option AttributePlace
  | .beforeName, c =>
      if isSpace c then some .beforeName
      else if c = '/' then some .selfClosing
      else if c = '>' then none
      else some .name
  | .name, c =>
      if isSpace c then some .afterName
      else if c = '/' then some .selfClosing
      else if c = '>' then none
      else if c = '=' then some .beforeValue
      else some .name
  | .afterName, c =>
      if isSpace c then some .afterName
      else if c = '/' then some .selfClosing
      else if c = '>' then none
      else if c = '=' then some .beforeValue
      else some .name
  | .beforeValue, c =>
      if isSpace c then some .beforeValue
      else if c = '"' then some .doubleQuoted
      else if c = '\x27' then some .singleQuoted
      else if c = '>' then none
      else some .unquoted
  | .doubleQuoted, c => if c = '"' then some .afterQuoted else some .doubleQuoted
  | .singleQuoted, c => if c = '\x27' then some .afterQuoted else some .singleQuoted
  | .unquoted, c =>
      if isSpace c then some .beforeName
      else if c = '>' then none
      else some .unquoted
  | .afterQuoted, c =>
      if isSpace c then some .beforeName
      else if c = '/' then some .selfClosing
      else if c = '>' then none
      else some .name
  | .selfClosing, c =>
      if isSpace c then some .beforeName
      else if c = '/' then some .selfClosing
      else if c = '>' then none
      else some .name

/-- A character within a comment, where nothing of an end or of `<!--` stands before it. -/
def CommentPlace.bodyNext (c : Char) : CommentPlace :=
  if c = '<' then .lessThan else if c = '-' then .endDash else .body

/-- The place after one character; `none` when the comment ends. -/
def CommentPlace.next : CommentPlace → Char → Option CommentPlace
  | .start, c =>
      if c = '-' then some .startDash else if c = '>' then none else some (bodyNext c)
  | .startDash, c =>
      if c = '-' then some .endDashDash else if c = '>' then none else some (bodyNext c)
  | .body, c => some (bodyNext c)
  | .lessThan, c => if c = '!' then some .lessThanBang else some (bodyNext c)
  | .lessThanBang, c => if c = '-' then some .lessThanBangDash else some (bodyNext c)
  | .lessThanBangDash, c => if c = '-' then some .lessThanBangDashDash else some (bodyNext c)
  | .endDash, c => if c = '-' then some .endDashDash else some (bodyNext c)
  | .lessThanBangDashDash, c | .endDashDash, c =>
      if c = '>' then none
      else if c = '!' then some .endBang
      else if c = '-' then some .endDashDash
      else some (bodyNext c)
  | .endBang, c =>
      if c = '-' then some .endDash else if c = '>' then none else some (bodyNext c)

/-- What begins a CDATA section, behind `<!`. -/
def cdataOpening : List Char := ['[', 'C', 'D', 'A', 'T', 'A', '[']

/-- One character behind `<!`. -/
def declarationNext (read : List Char) (c : Char) : Mode × Option Event :=
  if read = [] ∧ c = '-' then (.declaration ['-'], none)
  else if read = ['-'] ∧ c = '-' then (.comment .start, none)
  else if read ++ [c] = cdataOpening then (.bogusComment, some .cdata)
  else if (read ++ [c]).isPrefixOf cdataOpening then (.declaration (read ++ [c]), none)
  else if c = '>' then (.data, none)
  else (.bogusComment, none)

/-- One character of the text. -/
def Mode.next : Mode → Char → Mode × Option Event
  | .data, c => (if c = '<' then .tagOpen else .data, none)
  | .tagOpen, c =>
      if c = '!' then (.declaration [], none)
      else if c = '/' then (.endTagOpen, none)
      else if c.isAlpha then (.tagName ⟨false, [c.toLower], []⟩, none)
      else if c = '?' then (.bogusComment, none)
      else (if c = '<' then .tagOpen else .data, none)
  | .endTagOpen, c =>
      if c.isAlpha then (.tagName ⟨true, [c.toLower], []⟩, none)
      else if c = '>' then (.data, none)
      else (.bogusComment, none)
  | .tagName tag, c =>
      if isSpace c then (.attributes { tag with attributes := [c] } .beforeName, none)
      else if c = '/' then (.attributes { tag with attributes := [c] } .selfClosing, none)
      else if c = '>' then (.data, some (.tag tag))
      else (.tagName { tag with name := tag.name ++ [nameChar c] }, none)
  | .attributes tag place, c =>
      match place.next c with
      | some place => (.attributes { tag with attributes := tag.attributes ++ [c] } place, none)
      | none => (.data, some (.tag tag))
  | .declaration read, c => declarationNext read c
  | .comment place, c =>
      match place.next c with
      | some place => (.comment place, none)
      | none => (.data, none)
  | .bogusComment, c => (if c = '>' then .data else .bogusComment, none)

/-- How a text ends that begins in a mode, and what is reported on the way. -/
def scan : Mode → List Char → Mode × List Event
  | m, [] => (m, [])
  | m, c :: text => ((scan (m.next c).1 text).1, (m.next c).2.toList ++ (scan (m.next c).1 text).2)

def Event.tag? : Event → Option Tag
  | .tag t => some t
  | .cdata => none

/-- The tags among the events. -/
def tagsOf (events : List Event) : List Tag := events.filterMap Event.tag?

/-- The first tag of a text. -/
def firstTag : Mode → List Char → Option Tag
  | _, [] => none
  | m, c :: text =>
      match (m.next c).2.bind Event.tag? with
      | some t => some t
      | none => firstTag (m.next c).1 text

theorem scan_append (m : Mode) (a b : List Char) :
    scan m (a ++ b) = ((scan (scan m a).1 b).1, (scan m a).2 ++ (scan (scan m a).1 b).2) := by
  induction a generalizing m with
  | nil => rfl
  | cons c a ih => simp only [List.cons_append, scan, ih, List.append_assoc]

theorem firstTag_eq_head? (m : Mode) (text : List Char) :
    firstTag m text = (tagsOf (scan m text).2).head? := by
  induction text generalizing m with
  | nil => rfl
  | cons c text ih =>
      simp only [firstTag, scan, tagsOf, List.filterMap_append]
      cases (m.next c).2 with
      | none => exact ih _
      | some event =>
          cases event with
          | tag t => rfl
          | cdata => exact ih _

/-- The first tag of two texts is that of the first, if it has one. -/
theorem firstTag_append (m : Mode) (a b : List Char) :
    firstTag m (a ++ b) = (firstTag m a).or (firstTag (scan m a).1 b) := by
  simp only [firstTag_eq_head?, scan_append, tagsOf, List.filterMap_append, List.head?_append]

theorem firstTag_data_cons {c : Char} (h : c ≠ '<') (text : List Char) :
    firstTag .data (c :: text) = firstTag .data text := by
  simp [firstTag, Mode.next, h]

/-- Without a `<`, a text is text. -/
theorem scan_data_of_plain {text : List Char} (h : '<' ∉ text) : scan .data text = (.data, []) := by
  induction text with
  | nil => rfl
  | cons c text ih =>
      have hc : c ≠ '<' := fun hc => h (hc ▸ List.mem_cons_self)
      have hnext : Mode.data.next c = (.data, none) := by simp [Mode.next, hc]
      simp [scan, hnext, ih fun hm => h (List.mem_cons_of_mem _ hm)]

/-! ### A tag that has begun -/

/-- Between its name and its end, a tag keeps its name. -/
theorem firstTag_attributes {tag t : Tag} {place : AttributePlace} {text : List Char}
    (h : firstTag (.attributes tag place) text = some t) : t.name = tag.name := by
  induction text generalizing tag place with
  | nil => cases h
  | cons c text ih =>
      rw [firstTag, Mode.next] at h
      cases hplace : place.next c with
      | none =>
          rw [hplace] at h
          exact congrArg Tag.name (Option.some.inj h).symm
      | some place' =>
          rw [hplace] at h
          have hrest : firstTag
            (.attributes { tag with attributes := tag.attributes ++ [c] } place') text = some t := h
          have hname := ih hrest
          exact hname

/-- What has been read of a name stays in it. -/
theorem firstTag_tagName {tag t : Tag} {text : List Char}
    (h : firstTag (.tagName tag) text = some t) : tag.name <+: t.name := by
  induction text generalizing tag with
  | nil => cases h
  | cons c text ih =>
      rw [firstTag, Mode.next] at h
      split_ifs at h with hspace hslash hend
      · exact (firstTag_attributes h).symm ▸ List.prefix_rfl
      · exact (firstTag_attributes h).symm ▸ List.prefix_rfl
      · exact (congrArg Tag.name (Option.some.inj h)) ▸ List.prefix_rfl
      · have hrest : firstTag (.tagName { tag with name := tag.name ++ [nameChar c] }) text =
          some t := h
        have hname := ih hrest
        exact (List.prefix_append _ _).trans hname

end Support.Html
