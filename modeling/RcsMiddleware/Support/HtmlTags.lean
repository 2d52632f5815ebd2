import RcsMiddleware.Support.HtmlTokens
import Mathlib.Data.List.Forall2

/-!
# Support — HtmlTags

The tags a browser reads in an HTML text.  The tree builder answers the tokenizer: after some tags
what follows is raw text, and within foreign elements there are CDATA sections.  It is a parameter,
told all that has been read; that it is `Quiet` on some names says which elements change nothing.

* `Inert`: a text without tags, behind which the tokenizer is in text again.
* `SameTags`: two texts with the same tags, by their parts: what both have in common, and inert
  texts in its place.
* `tags_eq_of_sameTags`: such texts have the same tags for every quiet tree builder.
* `inert_of_firstTags`: a text is inert if the first tag behind it can be read in two places.
-/

namespace Support.Html

/-- What the tree builder tells the tokenizer.  It knows the text so far and the tags in it. -/
structure TreeBuilder where
  /-- The states of raw text: of a script or a title, of a CDATA section. -/
  Raw : Type
  /-- Whether raw text follows a tag. -/
  enter : List Char → List Tag → Option Raw
  /-- Whether a CDATA section begins here. -/
  cdata : List Char → List Tag → Option Raw
  /-- One character of raw text: the state after it, and the end tag it closes. -/
  next : List Char → List Tag → Raw → Char → Option Raw × Option Tag

inductive Context (Raw : Type) where
  | markup (mode : Mode)
  | raw (state : Raw)

/-- A text read so far. -/
structure Parse (Raw : Type) where
  context : Context Raw
  read : List Char
  tags : List Tag

namespace TreeBuilder

variable (builder : TreeBuilder)

def step (parse : Parse builder.Raw) (c : Char) : Parse builder.Raw :=
  match parse.context with
  | .markup mode =>
      match mode.next c with
      | (mode, none) => ⟨.markup mode, parse.read ++ [c], parse.tags⟩
      | (mode, some (.tag t)) =>
          ⟨(builder.enter (parse.read ++ [c]) (parse.tags ++ [t])).elim (.markup mode) .raw,
            parse.read ++ [c], parse.tags ++ [t]⟩
      | (mode, some .cdata) =>
          ⟨(builder.cdata (parse.read ++ [c]) parse.tags).elim (.markup mode) .raw,
            parse.read ++ [c], parse.tags⟩
  | .raw state =>
      match builder.next parse.read parse.tags state c with
      | (state, t) =>
          ⟨state.elim (.markup .data) .raw, parse.read ++ [c], parse.tags ++ t.toList⟩

def run (parse : Parse builder.Raw) (text : List Char) : Parse builder.Raw :=
  text.foldl builder.step parse

/-- The tags of a text. -/
def tags (html : String) : List Tag := (builder.run ⟨.markup .data, [], []⟩ html.toList).tags

end TreeBuilder

/-! ### Elements that change nothing -/

/-- The elements within which other rules hold. -/
def foreignRoots : List (List Char) := [['s', 'v', 'g'], ['m', 'a', 't', 'h']]

/-- How many of them are open at most. -/
def nest (depth : Nat) (tag : Tag) : Nat :=
  if tag.name ∈ foreignRoots then (if tag.isEnd then depth - 1 else depth + 1) else depth

def depth (tags : List Tag) : Nat := tags.foldl nest 0

/-- No element of these names is followed by raw text, and outside the foreign elements there is no
CDATA section. -/
structure TreeBuilder.Quiet (builder : TreeBuilder) (names : List (List Char)) : Prop where
  enter : ∀ read tags, (∀ t ∈ tags, t.name ∈ names) → builder.enter read tags = none
  cdata : ∀ read tags, (∀ t ∈ tags, t.name ∈ names) → depth tags = 0 →
    builder.cdata read tags = none

/-- The tags have these names, and no CDATA section begins within a foreign element. -/
def Admits (names : List (List Char)) : Nat → List Event → Prop
  | _, [] => True
  | n, .tag t :: events => t.name ∈ names ∧ Admits names (nest n t) events
  | n, .cdata :: events => n = 0 ∧ Admits names n events

instance decidableAdmits (names : List (List Char)) :
    ∀ (n : Nat) (events : List Event), Decidable (Admits names n events)
  | _, [] => isTrue trivial
  | n, .tag t :: events =>
      have := decidableAdmits names (nest n t) events
      inferInstanceAs (Decidable (_ ∧ _))
  | n, .cdata :: events =>
      have := decidableAdmits names n events
      inferInstanceAs (Decidable (_ ∧ _))

section Parts

variable {names : List (List Char)}

theorem tagsOf_append (a b : List Event) : tagsOf (a ++ b) = tagsOf a ++ tagsOf b :=
  List.filterMap_append

theorem admits_append {n : Nat} {a b : List Event} :
    Admits names n (a ++ b) ↔ Admits names n a ∧ Admits names ((tagsOf a).foldl nest n) b := by
  induction a generalizing n with
  | nil => simp [Admits, tagsOf]
  | cons event a ih =>
      cases event with
      | tag t =>
          have hfold : (tagsOf (.tag t :: a)).foldl nest n = (tagsOf a).foldl nest (nest n t) := rfl
          simp only [List.cons_append, Admits, ih, hfold, and_assoc]
      | cdata =>
          have hfold : (tagsOf (.cdata :: a)).foldl nest n = (tagsOf a).foldl nest n := rfl
          simp only [List.cons_append, Admits, ih, hfold, and_assoc]

/-- Events without a tag change nothing outside the foreign elements. -/
theorem admits_of_no_tags {events : List Event} (h : tagsOf events = []) :
    Admits names 0 events := by
  induction events with
  | nil => trivial
  | cons event events ih =>
      cases event with
      | tag t => simp [tagsOf, Event.tag?] at h
      | cdata => exact ⟨rfl, ih h⟩

/-! ### Whole tags -/

/-- A text of whole tags of these names, every foreign element closed. -/
def Markup (names : List (List Char)) (text : List Char) : Prop :=
  (scan .data text).1 = .data ∧ Admits names 0 (scan .data text).2 ∧
    depth (tagsOf (scan .data text).2) = 0

instance (text : List Char) : Decidable (Markup names text) :=
  inferInstanceAs (Decidable (_ ∧ _ ∧ _))

theorem Markup.append {a b : List Char} (ha : Markup names a) (hb : Markup names b) :
    Markup names (a ++ b) := by
  obtain ⟨hmode, hadmits, hdepth⟩ := ha
  obtain ⟨hmode', hadmits', hdepth'⟩ := hb
  rw [Markup, scan_append, hmode, tagsOf_append, depth, List.foldl_append, admits_append]
  rw [depth] at hdepth
  rw [hdepth]
  exact ⟨hmode', ⟨hadmits, hadmits'⟩, hdepth'⟩

theorem markup_of_plain {text : List Char} (h : '<' ∉ text) : Markup names text := by
  rw [Markup, scan_data_of_plain h]
  exact ⟨rfl, trivial, rfl⟩

/-- The characters of literals in a row. -/
theorem literal_append {s t : String} {a b : List Char} (hs : s = String.ofList a)
    (ht : t = String.ofList b) : s ++ t = String.ofList (a ++ b) := by
  rw [hs, ht, String.ofList_append]

theorem markup_literal {s : String} {text : List Char} (hs : s = String.ofList text)
    (h : Markup names text) : Markup names s.toList := by
  rwa [hs, String.toList_ofList]

/-! ### Inert texts -/

/-- No tag is read in the text, and what follows it is text again. -/
def Inert (text : List Char) : Prop :=
  tagsOf (scan .data text).2 = [] ∧
    ((scan .data text).1 = .data ∨ (scan .data text).1 = .tagOpen)

instance (text : List Char) : Decidable (Inert text) := inferInstanceAs (Decidable (_ ∧ _))

theorem inert_of_plain {text : List Char} (h : '<' ∉ text) : Inert text := by
  rw [Inert, scan_data_of_plain h]
  exact ⟨rfl, .inl rfl⟩

/-- A text that begins no tag behind a `<`. -/
def Stops (text : List Char) : Prop :=
  ∀ c ∈ text.head?, c.isAlpha = false ∧ c ≠ '!' ∧ c ≠ '/' ∧ c ≠ '?'

theorem stops_literal {s : String} {c : Char} {text : List Char}
    (hs : s = String.ofList (c :: text))
    (h : c.isAlpha = false ∧ c ≠ '!' ∧ c ≠ '/' ∧ c ≠ '?') (rest : List Char) :
    Stops (s.toList ++ rest) := by
  rw [hs, String.toList_ofList]
  exact fun _ hd => Option.some.inj hd ▸ h

/-- Behind an inert text a rest is read as it is read alone, unless both are empty. -/
theorem scan_inert {text rest : List Char} (h : Inert text) (hstops : Stops rest) :
    (scan (scan .data text).1 rest).2 = (scan .data rest).2 ∧
      (rest ≠ [] → (scan (scan .data text).1 rest).1 = (scan .data rest).1) := by
  rcases h.2 with hmode | hmode
  · rw [hmode]
    exact ⟨rfl, fun _ => rfl⟩
  · rw [hmode]
    cases rest with
    | nil => exact ⟨rfl, fun h => absurd rfl h⟩
    | cons c rest =>
        obtain ⟨halpha, hbang, hslash, hquestion⟩ := hstops c rfl
        have hnext : Mode.tagOpen.next c = Mode.data.next c := by
          simp [Mode.next, halpha, hbang, hslash, hquestion]
        rw [scan, scan, hnext]
        exact ⟨rfl, fun _ => rfl⟩

theorem Inert.append {a b : List Char} (ha : Inert a) (hb : Inert b) (hstops : Stops b) :
    Inert (a ++ b) := by
  by_cases hnil : b = []
  · rwa [hnil, List.append_nil]
  · obtain ⟨hevents, hmode⟩ := scan_inert ha hstops
    rw [Inert, scan_append, hevents, hmode hnil, tagsOf_append, ha.1, List.nil_append]
    exact hb

theorem Inert.plain_append {a b : List Char} (ha : '<' ∉ a) (hb : Inert b) : Inert (a ++ b) := by
  rw [Inert, scan_append, scan_data_of_plain ha]
  exact hb

/-- Behind an inert text the tags are those of the rest. -/
theorem tagsOf_inert {text rest : List Char} (h : Inert text) (hstops : Stops rest) :
    tagsOf (scan .data (text ++ rest)).2 = tagsOf (scan .data rest).2 := by
  rw [scan_append, (scan_inert h hstops).1, tagsOf_append, h.1, List.nil_append]

theorem admits_inert {text rest : List Char} (h : Inert text) (hstops : Stops rest)
    (hadmits : Admits names 0 (scan .data rest).2) :
    Admits names 0 (scan .data (text ++ rest)).2 := by
  rw [scan_append, (scan_inert h hstops).1, admits_append, h.1]
  exact ⟨admits_of_no_tags h.1, hadmits⟩

/-- What begins with a `<` and stands in a declaration stands in a bogus comment. -/
theorem declarationNext_lessThan (read : List Char) :
    declarationNext read '<' = (.bogusComment, none) := by
  have hmem : '<' ∉ cdataOpening := by decide
  have hwhole : read ++ ['<'] ≠ cdataOpening := fun h => hmem (h ▸ by simp)
  have hpart : ¬ (read ++ ['<']) <+: cdataOpening := fun h => hmem (h.subset (by simp))
  simp [declarationNext, hwhole, hpart]

/-- … and a `<` leaves no trace of how far the end of a comment was read. -/
theorem firstTag_comment (place : CommentPlace) (text : List Char) :
    firstTag (.comment place) ('<' :: text) = firstTag (.comment .body) ('<' :: text) := by
  cases place <;> rfl

/-- A text that begins with a tag, and gives this tag away neither in a comment nor in a bogus
one. -/
structure Reveals (text : List Char) (t : Tag) : Prop where
  head : text.head? = some '<'
  first : firstTag .data text = some t
  name : '<' ∉ t.name
  bogus : firstTag .bogusComment text ≠ some t
  comment : firstTag (.comment .body) text ≠ some t

/-- **What stands before two tags**: if behind a text, in two places, the first tag is the one
written there, and the two have different names, then the text is inert. -/
theorem inert_of_firstTags {text rest rest' : List Char} {t t' : Tag} (hrest : Reveals rest t)
    (h : firstTag .data (text ++ rest) = some t) (h' : firstTag .data (text ++ rest') = some t')
    (hnames : t.name ≠ t'.name) : Inert text := by
  obtain ⟨hhead, -, hname, hbogus, hcomment⟩ := hrest
  obtain ⟨rest, rfl⟩ : ∃ l, rest = '<' :: l := by
    cases rest with
    | nil => cases hhead
    | cons c l => exact ⟨l, congrArg (· :: l) (Option.some.inj hhead)⟩
  rw [firstTag_append] at h h'
  cases hfirst : firstTag .data text with
  | some u =>
      rw [hfirst, Option.some_or] at h h'
      exact absurd (congrArg Tag.name (Option.some.inj (h.symm.trans h'))) hnames
  | none =>
      rw [hfirst, Option.none_or] at h h'
      refine ⟨List.head?_eq_none_iff.mp (firstTag_eq_head? _ _ ▸ hfirst), ?_⟩
      -- In every other mode the tag written behind the text is not the one read.
      cases hmode : (scan .data text).1 with
      | data => exact .inl rfl
      | tagOpen => exact .inr rfl
      | endTagOpen =>
          rw [hmode] at h
          exact absurd h hbogus
      | bogusComment =>
          rw [hmode] at h
          exact absurd h hbogus
      | declaration read =>
          rw [hmode, firstTag, Mode.next, declarationNext_lessThan] at h
          exact absurd h hbogus
      | comment place =>
          rw [hmode, firstTag_comment] at h
          exact absurd h hcomment
      | attributes tag place =>
          rw [hmode] at h h'
          exact absurd ((firstTag_attributes h).trans (firstTag_attributes h').symm) hnames
      | tagName tag =>
          rw [hmode] at h
          have hrest : firstTag (.tagName { tag with name := tag.name ++ ['<'] }) rest = some t := h
          exact absurd ((firstTag_tagName hrest).subset (by simp)) hname

/-! ### Two texts -/

/-- Two texts with the same tags, all of these names. -/
def SameTags (names : List (List Char)) (text text' : List Char) : Prop :=
  Admits names 0 (scan .data text).2 ∧ Admits names 0 (scan .data text').2 ∧
    tagsOf (scan .data text).2 = tagsOf (scan .data text').2

theorem SameTags.refl {text : List Char} (h : Markup names text) : SameTags names text text :=
  ⟨h.2.1, h.2.1, rfl⟩

/-- What both texts have in front. -/
theorem SameTags.markup {front text text' : List Char} (hfront : Markup names front)
    (h : SameTags names text text') : SameTags names (front ++ text) (front ++ text') := by
  obtain ⟨hmode, hadmits, hdepth⟩ := hfront
  obtain ⟨htext, htext', htags⟩ := h
  rw [depth] at hdepth
  rw [SameTags, scan_append, scan_append, hmode, admits_append, admits_append, tagsOf_append,
    tagsOf_append, hdepth, htags]
  exact ⟨⟨hadmits, htext⟩, ⟨hadmits, htext'⟩, rfl⟩

/-- An inert text in front of each. -/
theorem SameTags.inert {field field' text text' : List Char} (hfield : Inert field)
    (hfield' : Inert field') (hstops : Stops text) (hstops' : Stops text')
    (h : SameTags names text text') : SameTags names (field ++ text) (field' ++ text') := by
  obtain ⟨htext, htext', htags⟩ := h
  refine ⟨admits_inert hfield hstops htext, admits_inert hfield' hstops' htext', ?_⟩
  rw [tagsOf_inert hfield hstops, tagsOf_inert hfield' hstops', htags]

/-- A literal that both have in front. -/
theorem SameTags.literal {s : String} {chars text text' : List Char}
    (hs : s = String.ofList chars) (hmarkup : Markup names chars)
    (h : SameTags names text text') : SameTags names (s.toList ++ text) (s.toList ++ text') :=
  .markup (markup_literal hs hmarkup) h

/-- An inert text in front of each, and the literal of a tag behind it. -/
theorem SameTags.field {s : String} {chars field field' text text' : List Char}
    (hfield : Inert field) (hfield' : Inert field') (hs : s = String.ofList ('<' :: chars))
    (hmarkup : Markup names ('<' :: chars)) (h : SameTags names text text') :
    SameTags names (field ++ (s.toList ++ text)) (field' ++ (s.toList ++ text')) := by
  have hstops : ∀ rest, Stops (s.toList ++ rest) := stops_literal hs (by decide)
  exact .inert hfield hfield' (hstops text) (hstops text') (.literal hs hmarkup h)

/-- Pieces that are the same but for inert texts, one after another. -/
theorem SameTags.flatMap {α : Type} {Alike : α → α → Prop} {Shown : α → Prop}
    {piece : α → List Char} {items items' : List α} {rest rest' : List Char}
    (halike : items.Forall₂ Alike items') (hshown : ∀ a ∈ items, Shown a)
    (hshown' : ∀ a ∈ items', Shown a)
    (hpiece : ∀ a a' text text', Alike a a' → Shown a → Shown a' → SameTags names text text' →
      SameTags names (piece a ++ text) (piece a' ++ text'))
    (h : SameTags names rest rest') :
    SameTags names (items.flatMap piece ++ rest) (items'.flatMap piece ++ rest') := by
  induction halike with
  | nil => exact h
  | cons hhead htail ih =>
      rw [List.flatMap_cons, List.flatMap_cons, List.append_assoc, List.append_assoc]
      exact hpiece _ _ _ _ hhead (hshown _ List.mem_cons_self) (hshown' _ List.mem_cons_self)
        (ih (fun a ha => hshown a (List.mem_cons_of_mem _ ha))
          fun a ha => hshown' a (List.mem_cons_of_mem _ ha))

end Parts

/-! ### Runs -/

section Runs

variable {builder : TreeBuilder} {names : List (List Char)}

theorem depth_append (tags more : List Tag) : depth (tags ++ more) = more.foldl nest (depth tags) :=
  List.foldl_append

theorem named_of_admits {n : Nat} {events : List Event} (h : Admits names n events) :
    ∀ t ∈ tagsOf events, t.name ∈ names := by
  induction events generalizing n with
  | nil => intro t ht; cases ht
  | cons event events ih =>
      cases event with
      | tag t =>
          intro u hu
          rcases List.mem_cons.mp (show u ∈ t :: tagsOf events from hu) with rfl | hu
          · exact h.1
          · exact ih h.2 u hu
      | cdata => exact ih h.2

theorem run_append (parse : Parse builder.Raw) (a b : List Char) :
    builder.run parse (a ++ b) = builder.run (builder.run parse a) b :=
  List.foldl_append

/-- Tags that have been read stay. -/
theorem tags_prefix_step (parse : Parse builder.Raw) (c : Char) :
    parse.tags <+: (builder.step parse c).tags := by
  rw [TreeBuilder.step]
  split
  · split
    · exact List.prefix_rfl
    · exact List.prefix_append _ _
    · exact List.prefix_rfl
  · exact List.prefix_append _ _

theorem tags_prefix_run (parse : Parse builder.Raw) (text : List Char) :
    parse.tags <+: (builder.run parse text).tags := by
  induction text generalizing parse with
  | nil => exact List.prefix_rfl
  | cons c text ih => exact (tags_prefix_step parse c).trans (ih _)

/-- A quiet tree builder lets the tokenizer read a character. -/
theorem step_markup (hquiet : builder.Quiet names) {mode : Mode} {c : Char} {read : List Char}
    {tags : List Tag} (hnames : ∀ t ∈ tags, t.name ∈ names)
    (hadmits : Admits names (depth tags) (mode.next c).2.toList) :
    builder.step ⟨.markup mode, read, tags⟩ c =
      ⟨.markup (mode.next c).1, read ++ [c], tags ++ tagsOf (mode.next c).2.toList⟩ := by
  cases hnext : mode.next c with
  | mk mode' event =>
      rw [hnext] at hadmits
      cases event with
      | none => simp [TreeBuilder.step, hnext, tagsOf]
      | some event =>
          cases event with
          | tag t =>
              have hnames' : ∀ u ∈ tags ++ [t], u.name ∈ names := by
                intro u hu
                rcases List.mem_append.mp hu with hu | hu
                · exact hnames u hu
                · exact List.mem_singleton.mp hu ▸ hadmits.1
              simp [TreeBuilder.step, hnext, tagsOf, Event.tag?, hquiet.enter _ _ hnames']
          | cdata =>
              simp [TreeBuilder.step, hnext, tagsOf, Event.tag?,
                hquiet.cdata _ _ hnames hadmits.1]

/-- … and all of a text. -/
theorem run_markup (hquiet : builder.Quiet names) {mode : Mode} {text read : List Char}
    {tags : List Tag} (hnames : ∀ t ∈ tags, t.name ∈ names)
    (hadmits : Admits names (depth tags) (scan mode text).2) :
    builder.run ⟨.markup mode, read, tags⟩ text =
      ⟨.markup (scan mode text).1, read ++ text, tags ++ tagsOf (scan mode text).2⟩ := by
  induction text generalizing mode read tags with
  | nil => simp [TreeBuilder.run, scan, tagsOf]
  | cons c text ih =>
      obtain ⟨hfirst, hrest⟩ := admits_append.mp hadmits
      have hnames' : ∀ t ∈ tags ++ tagsOf (mode.next c).2.toList, t.name ∈ names := by
        intro t ht
        rcases List.mem_append.mp ht with ht | ht
        · exact hnames t ht
        · exact named_of_admits hfirst t ht
      rw [TreeBuilder.run, List.foldl_cons, step_markup hquiet hnames hfirst, ← TreeBuilder.run,
        ih hnames' (by rwa [depth_append]), scan, tagsOf_append]
      simp only [List.append_assoc, List.singleton_append]

theorem tags_eq_of_sameTags (hquiet : builder.Quiet names) {html html' : String}
    (h : SameTags names html.toList html'.toList) : builder.tags html = builder.tags html' := by
  obtain ⟨hadmits, hadmits', htags⟩ := h
  have hnil : ∀ t ∈ ([] : List Tag), t.name ∈ names := fun _ ht => by cases ht
  rw [TreeBuilder.tags, TreeBuilder.tags, run_markup hquiet hnil hadmits,
    run_markup hquiet hnil hadmits', htags]

/-- Up to the first tag a quiet tree builder lets the tokenizer read, whatever tag that is. -/
theorem head?_tags_run (hquiet : builder.Quiet names) {mode : Mode} {text read : List Char}
    {tags : List Tag} (hnames : ∀ t ∈ tags, t.name ∈ names) (hdepth : depth tags = 0) :
    ((builder.run ⟨.markup mode, read, tags⟩ text).tags.drop tags.length).head? =
      firstTag mode text := by
  induction text generalizing mode read with
  | nil => simp [TreeBuilder.run, firstTag]
  | cons c text ih =>
      rw [TreeBuilder.run, List.foldl_cons, ← TreeBuilder.run, firstTag]
      cases hnext : mode.next c with
      | mk mode' event =>
          -- Without a tag, the character is read and the tags are those there were.
          have hsilent (hevent : tagsOf event.toList = []) :
              builder.step ⟨.markup mode, read, tags⟩ c = ⟨.markup mode', read ++ [c], tags⟩ := by
            rw [step_markup hquiet hnames, hnext, hevent, List.append_nil]
            rw [hnext, hdepth]
            exact admits_of_no_tags hevent
          cases event with
          | none =>
              rw [hsilent rfl]
              exact ih
          | some event =>
              cases event with
              | tag t =>
                  obtain ⟨more, hmore⟩ := tags_prefix_run
                    (builder.step ⟨.markup mode, read, tags⟩ c) text
                  have hstep : (builder.step ⟨.markup mode, read, tags⟩ c).tags = tags ++ [t] := by
                    simp [TreeBuilder.step, hnext]
                  rw [← hmore, hstep, List.append_assoc, List.drop_left]
                  rfl
              | cdata =>
                  rw [hsilent rfl]
                  exact ih

/-- Texts with the same tags that begin alike have the same first tag behind what they share. -/
theorem firstTag_eq_of_tags_eq (hquiet : builder.Quiet names) {front text text' : String}
    (hfront : Markup names front.toList)
    (h : builder.tags (front ++ text) = builder.tags (front ++ text')) :
    firstTag .data text.toList = firstTag .data text'.toList := by
  obtain ⟨hmode, hadmits, hdepth⟩ := hfront
  have hnil : ∀ t ∈ ([] : List Tag), t.name ∈ names := fun _ ht => by cases ht
  have hrun : ∀ s : String, builder.tags (front ++ s) = (builder.run ⟨.markup .data, front.toList,
      tagsOf (scan .data front.toList).2⟩ s.toList).tags := fun s => by
    rw [TreeBuilder.tags, String.toList_append, run_append, run_markup hquiet hnil hadmits, hmode,
      List.nil_append, List.nil_append]
  rw [hrun, hrun] at h
  rw [← head?_tags_run hquiet (named_of_admits hadmits) hdepth, h,
    head?_tags_run hquiet (named_of_admits hadmits) hdepth]

end Runs

end Support.Html
