import RcsMiddleware.Source.StaticJs
import RcsMiddleware.Support.CanonicalJson
import RcsMiddleware.Support.HtmlTags

/-!
# Dashboard — Templates

The templates of the pages that list webhooks and alerts, as HTML: which elements they consist of,
and that a row or a box in which only inert texts differ has the same tags.

* `sameTags_webhookHtml`, `sameTags_alertHtml`: the rows of one page and the boxes of the other.
-/

namespace Rcs

open Support Support.Text Support.Html

/-- The elements of the two pages. -/
def pageElements : List (List Char) :=
  [['t', 'a', 'b', 'l', 'e'], ['t', 'h', 'e', 'a', 'd'], ['t', 'b', 'o', 'd', 'y'], ['t', 'r'],
    ['t', 'h'], ['t', 'd'], ['s', 'p', 'a', 'n'], ['d', 'i', 'v'],
    ['s', 't', 'r', 'o', 'n', 'g'], ['p'], ['s', 'v', 'g'], ['c', 'i', 'r', 'c', 'l', 'e'],
    ['l', 'i', 'n', 'e']]

/-- The tags of the texts that are written as HTML. -/
def htmlTags (builder : TreeBuilder) (writes : List DomWrite) : List (String × List Tag) :=
  writes.filterMap fun write =>
    match write with
    | .innerHTML id html => some (id, builder.tags html)
    | .textContent _ _ | .display _ _ => none

/-! ### The pieces of the pages -/

section Pieces

variable {browser : Browser}

theorem plain_of_digits {s : String} (h : ∀ c ∈ s.toList, c.isDigit = true ∨ c = '-') :
    '<' ∉ s.toList := fun hm => by
  rcases h '<' hm with hdigit | hdash
  · exact absurd hdigit (by decide)
  · exact absurd hdash (by decide)

theorem plain_append {s t : String} (hs : '<' ∉ s.toList) (ht : '<' ∉ t.toList) :
    '<' ∉ (s ++ t).toList := by
  rw [String.toList_append, List.mem_append]
  exact fun h => h.elim hs ht

theorem plain_timeAgo (hdate : ∀ s, '<' ∉ (browser.toLocaleDateString s).toList)
    (isoStr : Option String) : '<' ∉ (UI.timeAgo browser isoStr).toList := by
  have hunit : ∀ (i : Int) (s : String), '<' ∉ s.toList → '<' ∉ (toString i ++ s).toList :=
    fun i _ hs => plain_append (plain_of_digits (Json.int_chars i)) hs
  rw [UI.timeAgo]
  split
  · decide
  · split
    · split_ifs
      · exact hunit _ _ (by decide)
      · exact hunit _ _ (by decide)
      · exact hunit _ _ (by decide)
      · exact hdate _
    · exact hdate _

/-- A page grows by one piece for each entry. -/
theorem toList_foldl_append {α : Type} (piece : α → String) (items : List α) (html : String) :
    (items.foldl (fun html item => html ++ piece item) html).toList =
      html.toList ++ items.flatMap fun item => (piece item).toList := by
  induction items generalizing html with
  | nil => simp
  | cons item items ih => simp [ih]

set_option maxRecDepth 4000 in
theorem markup_iconAlert : Markup pageElements UI.iconAlert.toList :=
  markup_literal (literal_append (literal_append rfl rfl) rfl) (by decide)

set_option maxRecDepth 4000 in
theorem markup_alertOpening (isErr : Bool) : Markup pageElements (alertOpening isErr).toList := by
  have hseven : ∀ {a b c d e f g : String} {la lb lc ld le lf lg : List Char},
      a = .ofList la → b = .ofList lb → c = .ofList lc → d = .ofList ld → e = .ofList le →
      f = .ofList lf → g = .ofList lg →
      a ++ b ++ c ++ d ++ e ++ f ++ g = .ofList (la ++ lb ++ lc ++ ld ++ le ++ lf ++ lg) :=
    fun ha hb hc hd he hf hg => literal_append (literal_append (literal_append (literal_append
      (literal_append (literal_append ha hb) hc) hd) he) hf) hg
  cases isErr with
  | false => exact markup_literal (hseven rfl rfl rfl rfl rfl rfl rfl) (by decide)
  | true => exact markup_literal (hseven rfl rfl rfl rfl rfl rfl rfl) (by decide)

set_option maxRecDepth 4000 in
theorem markup_detailsOpening : Markup pageElements detailsOpening.toList :=
  markup_literal (literal_append rfl rfl) (by decide)

theorem badge_valid : UI.badge "geçerli" =
    "<span class=\"badge " ++ "geçerli" ++ "\"><span class=\"badge-dot\"></span>" ++ "geçerli" ++
      "</span>" := by
  have hlower : "geçerli".toLower = "geçerli" := by
    show "geçerli".map Char.toLower = "geçerli"
    rw [← String.toList_inj, String.toList_map]
    decide
  unfold UI.badge
  dsimp only
  rw [truthy_some (by decide : "geçerli" ≠ ""), Option.getD_some, hlower]

/-- What a row says of its signature. -/
theorem markup_signature (signatureValid : Bool) : Markup pageElements
    (if signatureValid then UI.badge "geçerli"
      else "<span class=\"badge failed\"><span class=\"badge-dot\"></span>Geçersiz</span>").toList
    := by
  cases signatureValid with
  | false => exact markup_literal rfl (by decide)
  | true =>
      rw [if_pos rfl, badge_valid]
      exact markup_literal (literal_append (literal_append (literal_append (literal_append rfl rfl)
        rfl) rfl) rfl) (by decide)

/-- … and of a repetition. -/
theorem markup_duplicate (duplicate : Bool) : Markup pageElements
    (if duplicate then "<span style=\"font-size:10px;color:var(--text-muted);\">(Dedupe)</span>"
      else "").toList := by
  cases duplicate with
  | false => exact markup_literal rfl (by decide)
  | true => exact markup_literal rfl (by decide)

/-- The head of the webhook table. -/
def webhookHead : String :=
  "<table class=\"data-table\"><thead><tr><th>ID</th><th>Zaman</th>" ++
    "<th>Görev Kodu</th><th>Method</th><th>AMR</th><th>İmza</th></tr></thead><tbody>"

set_option maxRecDepth 4000 in
theorem markup_webhookHead : Markup pageElements webhookHead.toList :=
  markup_literal (literal_append rfl rfl) (by decide)

def webhookTable (browser : Browser) (items : List WebhookLogItem) : String :=
  items.foldl (fun html w => html ++ webhookHtml browser w) webhookHead ++ "</tbody></table>"

theorem loadWebhooks_of_ne (browser : Browser) {d : Listing WebhookLogItem} (h : d.items ≠ []) :
    loadWebhooks browser d = [.innerHTML "wh-table" (webhookTable browser d.items),
      .innerHTML "wh-pagination" (UI.pagination d.page d.totalPages "App.goToWhPage")] := by
  unfold loadWebhooks
  rw [if_neg h]
  rfl

theorem toList_webhookTable (browser : Browser) (items : List WebhookLogItem) :
    (webhookTable browser items).toList = webhookHead.toList ++
      (items.flatMap (fun w => (webhookHtml browser w).toList) ++ "</tbody></table>".toList) := by
  rw [webhookTable, String.toList_append, toList_foldl_append, List.append_assoc]

def alertBoxes (browser : Browser) (items : List Alert) : String :=
  items.foldl (fun html a => html ++ alertHtml browser a)
    "<div style=\"display:flex;flex-direction:column;gap:12px;\">" ++ "</div>"

theorem htmlTags_loadAlertsList (builder : TreeBuilder) (browser : Browser) {items : List Alert}
    (h : items ≠ []) : htmlTags builder (loadAlertsList browser items) =
      [("alerts-list", builder.tags (alertBoxes browser items))] := by
  unfold loadAlertsList
  rw [if_neg h]
  rfl

theorem toList_alertBoxes (browser : Browser) (items : List Alert) :
    (alertBoxes browser items).toList =
      "<div style=\"display:flex;flex-direction:column;gap:12px;\">".toList ++
      (items.flatMap (fun a => (alertHtml browser a).toList) ++ "</div>".toList) := by
  rw [alertBoxes, String.toList_append, toList_foldl_append, List.append_assoc]

end Pieces

/-! ### Inert texts keep the tags -/

/-- What a row shows of its sender's texts is inert. -/
structure InertItem (w : WebhookLogItem) : Prop where
  robotTaskCode : Inert w.robotTaskCode.toList
  method : Inert w.method.toList
  amrCode : Inert ((truthy w.amrCode).getD "—").toList

section Kept

variable {browser : Browser} (hdate : ∀ s, '<' ∉ (browser.toLocaleDateString s).toList)
  {rest rest' : List Char}

include hdate in
/-- A row of the webhook page. -/
theorem sameTags_webhookHtml {w w' : WebhookLogItem} (hid : w'.id = w.id)
    (hcreated : w'.createdAt = w.createdAt) (hvalid : w'.signatureValid = w.signatureValid)
    (hduplicate : w'.duplicate = w.duplicate) (hw : InertItem w) (hw' : InertItem w')
    (h : SameTags pageElements rest rest') :
    SameTags pageElements ((webhookHtml browser w).toList ++ rest)
      ((webhookHtml browser w').toList ++ rest') := by
  unfold webhookHtml
  simp only [String.toList_append, List.append_assoc, hid, hcreated, hvalid, hduplicate]
  refine .literal rfl (by decide) ?_
  refine .markup (markup_of_plain (plain_of_digits fun c hc => .inl
    (Json.isDigit_of_mem_nat _ c hc))) ?_
  refine .literal rfl (by decide) ?_
  refine .markup (markup_of_plain (plain_timeAgo hdate _)) ?_
  refine .literal rfl (by decide) ?_
  refine .field hw.robotTaskCode hw'.robotTaskCode rfl (by decide) ?_
  refine .field hw.method hw'.method rfl (by decide) ?_
  refine .field hw.amrCode hw'.amrCode rfl (by decide) ?_
  refine .markup (markup_signature _) ?_
  refine .literal rfl (by decide) ?_
  refine .markup (markup_duplicate _) ?_
  exact .literal rfl (by decide) h

include hdate in
/-- A box of the page of the alerts. -/
theorem sameTags_alertHtml {a a' : Alert} (hseverity : a'.severity = a.severity)
    (htimestamp : a'.timestamp = a.timestamp) (hdetails : a'.details = a.details)
    (hinert : Inert a.details.toList) (hmessage : Inert a.message.toList)
    (hmessage' : Inert a'.message.toList) (h : SameTags pageElements rest rest') :
    SameTags pageElements ((alertHtml browser a).toList ++ rest)
      ((alertHtml browser a').toList ++ rest') := by
  have hbox : SameTags pageElements
      ((if a.details ≠ "" then detailsOpening ++ a.details ++ "</div>" else "").toList ++
        ("\n          </div>\n        </div>".toList ++ rest))
      ((if a.details ≠ "" then detailsOpening ++ a.details ++ "</div>" else "").toList ++
        ("\n          </div>\n        </div>".toList ++ rest')) := by
    have hend : SameTags pageElements ("\n          </div>\n        </div>".toList ++ rest)
        ("\n          </div>\n        </div>".toList ++ rest') :=
      .literal rfl (by decide) h
    split
    · simp only [String.toList_append, List.append_assoc]
      exact .markup markup_detailsOpening (.field hinert hinert rfl (by decide) hend)
    · exact hend
  simp only [alertHtml, String.toList_append, List.append_assoc, hseverity, htimestamp, hdetails]
  refine .markup (markup_alertOpening _) ?_
  refine .markup markup_iconAlert ?_
  refine .literal rfl (by decide) ?_
  refine .literal rfl (by decide) ?_
  refine .literal rfl (by decide) ?_
  refine .field hmessage hmessage' rfl (by decide) ?_
  refine .markup (markup_of_plain (plain_timeAgo hdate _)) ?_
  exact .literal rfl (by decide) hbox

end Kept

end Rcs
