import RcsMiddleware.Dashboard.Alerts
import RcsMiddleware.Dashboard.Templates

/-!
# Dashboard — Markup

The tags of the two pages that show what a sender without a valid signature has written.  The pages
are templates, and nothing in them is escaped.

* `keepTags_iff_inert`: the tags are the same whatever such a sender writes exactly when everything
  the pages show as text is inert, that is, no tag, no beginning of one and no open comment.
-/

namespace Rcs

open Support Support.Text Support.Html

/-! ### What a sender chooses -/

namespace WebhookLogRow

/-- A delivery without a valid signature, with three texts of its sender. -/
def Unsigned (r : WebhookLogRow) : Prop :=
  r.log.signatureValid = false ∧ r.log.robotTaskCode ≠ "" ∧ r.log.method ≠ "" ∧
    ∃ amrCode, r.log.amrCode = some amrCode ∧ amrCode ≠ ""

def withTexts (r : WebhookLogRow) (robotTaskCode method : String) (amrCode : Option String) :
    WebhookLogRow :=
  { r with log := { r.log with robotTaskCode := robotTaskCode, method := method,
                               amrCode := amrCode } }

/-- The same entry, or the same delivery with other texts of its sender. -/
def SenderAlike (r r' : WebhookLogRow) : Prop :=
  r' = r ∨ (r.Unsigned ∧ r'.Unsigned ∧
    r' = r.withTexts r'.log.robotTaskCode r'.log.method r'.log.amrCode)

/-- The texts of an entry that a page shows. -/
def freeTexts (r : WebhookLogRow) : List String :=
  [r.log.robotTaskCode, r.log.method] ++ (truthy r.log.amrCode).toList

end WebhookLogRow

namespace AlertSource

/-- The same source, or the same delivery with other texts of its sender. -/
inductive SenderAlike : AlertSource → AlertSource → Prop where
  | task (r : TaskRow) : SenderAlike (.task r) (.task r)
  | signature {r r' : WebhookLogRow} (h : r.SenderAlike r') :
      SenderAlike (.signature r) (.signature r')

/-- The texts of a source that the page shows. -/
def freeTexts : AlertSource → List String
  | .task r => r.task.robotTaskCode :: (truthy r.task.errorMsg).toList
  | .signature r => [r.log.robotTaskCode, r.log.method]

end AlertSource

/-- Every text is one that is sent, or has no `<`. -/
def Admitted (Sends : String → Prop) (texts : List String) : Prop :=
  ∀ text ∈ texts, Sends text ∨ '<' ∉ text.toList

variable (builder : TreeBuilder) (browser : Browser) (Sends : String → Prop)

/-- The tags of the webhook page are the same for lists of entries that differ in the texts of
their senders. -/
def WebhooksKeepTags : Prop :=
  ∀ (rows rows' : List WebhookLogRow) (total page pageSize totalPages : Nat),
    rows.Forall₂ WebhookLogRow.SenderAlike rows' →
    Admitted Sends (rows.flatMap WebhookLogRow.freeTexts) →
    Admitted Sends (rows'.flatMap WebhookLogRow.freeTexts) →
    htmlTags builder (loadWebhooks browser
        ⟨rows.map webhookLogItem, total, page, pageSize, totalPages⟩) =
      htmlTags builder (loadWebhooks browser
        ⟨rows'.map webhookLogItem, total, page, pageSize, totalPages⟩)

/-- … and those of the page of the alerts. -/
def AlertsKeepTags : Prop :=
  ∀ sources sources' : List AlertSource,
    sources.Forall₂ AlertSource.SenderAlike sources' →
    Admitted Sends (sources.flatMap AlertSource.freeTexts) →
    Admitted Sends (sources'.flatMap AlertSource.freeTexts) →
    htmlTags builder (loadAlertsList browser (sources.map AlertSource.alert)) =
      htmlTags builder (loadAlertsList browser (sources'.map AlertSource.alert))

/-! ### Inert texts keep the tags -/

section Kept

variable {browser : Browser} (hdate : ∀ s, '<' ∉ (browser.toLocaleDateString s).toList)
  {rest rest' : List Char}

/-- All that is sent is inert, so all that is shown is. -/
theorem inert_of_admitted {Sends : String → Prop} (hsends : ∀ text, Sends text → Inert text.toList)
    {texts : List String} (h : Admitted Sends texts) : ∀ text ∈ texts, Inert text.toList := by
  intro text htext
  rcases h text htext with hsent | hplain
  · exact hsends text hsent
  · exact inert_of_plain hplain

theorem inertItem {r : WebhookLogRow} (h : ∀ text ∈ r.freeTexts, Inert text.toList) :
    InertItem (webhookLogItem r) := by
  have hamr : Inert ((truthy r.log.amrCode).getD "—").toList := by
    cases htruthy : truthy r.log.amrCode with
    | none => exact inert_of_plain (by decide)
    | some amrCode => exact h amrCode (by simp [WebhookLogRow.freeTexts, htruthy])
  exact ⟨h _ (by simp [WebhookLogRow.freeTexts, webhookLogItem]),
    h _ (by simp [WebhookLogRow.freeTexts, webhookLogItem]), hamr⟩

include hdate in
theorem sameTags_webhook {r r' : WebhookLogRow} (halike : r.SenderAlike r')
    (hr : ∀ text ∈ r.freeTexts, Inert text.toList) (hr' : ∀ text ∈ r'.freeTexts, Inert text.toList)
    (h : SameTags pageElements rest rest') :
    SameTags pageElements ((webhookHtml browser (webhookLogItem r)).toList ++ rest)
      ((webhookHtml browser (webhookLogItem r')).toList ++ rest') := by
  have hshown : r'.id = r.id ∧ r'.createdAt = r.createdAt ∧
      r'.log.signatureValid = r.log.signatureValid ∧ r'.log.duplicate = r.log.duplicate := by
    rcases halike with rfl | ⟨-, -, htexts⟩
    · exact ⟨rfl, rfl, rfl, rfl⟩
    · rw [htexts]
      exact ⟨rfl, rfl, rfl, rfl⟩
  obtain ⟨hid, hcreated, hvalid, hduplicate⟩ := hshown
  exact sameTags_webhookHtml hdate hid hcreated hvalid hduplicate (inertItem hr) (inertItem hr') h

/-- A message made of inert texts is inert. -/
theorem inert_message {source : AlertSource}
    (h : ∀ text ∈ source.freeTexts, Inert text.toList) : Inert source.alert.message.toList := by
  cases source with
  | task r =>
      have hcode : Inert r.task.robotTaskCode.toList := h _ List.mem_cons_self
      have hend : '<' ∉
          (if r.task.status = .failed then "başarısız" else "iptal edildi").toList := by
        split
        · decide
        · decide
      simp only [AlertSource.alert, taskAlert, String.toList_append, List.append_assoc]
      refine .plain_append (by decide) (hcode.append (.plain_append (by decide)
        (inert_of_plain hend)) (stops_literal rfl (by decide) _))
  | signature r =>
      have hcode : Inert r.log.robotTaskCode.toList := h _ List.mem_cons_self
      have hmethod : Inert r.log.method.toList := h _ (List.mem_cons_of_mem _ List.mem_cons_self)
      simp only [AlertSource.alert, signatureAlert, String.toList_append, List.append_assoc]
      refine .plain_append (by decide) (hcode.append (.plain_append (by decide)
        (hmethod.append (inert_of_plain (by decide)) ?_)) (stops_literal rfl (by decide) _))
      exact (List.append_nil ")".toList) ▸ stops_literal rfl (by decide) []

theorem inert_details {source : AlertSource}
    (h : ∀ text ∈ source.freeTexts, Inert text.toList) : Inert source.alert.details.toList := by
  cases source with
  | task r =>
      simp only [AlertSource.alert, taskAlert]
      cases hmsg : truthy r.task.errorMsg with
      | none => exact inert_of_plain (by decide)
      | some errorMsg => exact h errorMsg (by simp [AlertSource.freeTexts, hmsg])
  | signature r => exact inert_of_plain (by decide : '<' ∉ "".toList)

include hdate in
theorem sameTags_alert {source source' : AlertSource} (halike : source.SenderAlike source')
    (hr : ∀ text ∈ source.freeTexts, Inert text.toList)
    (hr' : ∀ text ∈ source'.freeTexts, Inert text.toList)
    (h : SameTags pageElements rest rest') :
    SameTags pageElements ((alertHtml browser source.alert).toList ++ rest)
      ((alertHtml browser source'.alert).toList ++ rest') := by
  have hshown : source'.alert.severity = source.alert.severity ∧
      source'.alert.timestamp = source.alert.timestamp ∧
      source'.alert.details = source.alert.details := by
    cases halike with
    | task r => exact ⟨rfl, rfl, rfl⟩
    | signature halike =>
        rcases halike with rfl | ⟨-, -, htexts⟩
        · exact ⟨rfl, rfl, rfl⟩
        · rw [htexts]
          exact ⟨rfl, rfl, rfl⟩
  obtain ⟨hseverity, htimestamp, hdetails⟩ := hshown
  exact sameTags_alertHtml hdate hseverity htimestamp hdetails (inert_details hr)
    (inert_message hr) (inert_message hr') h

theorem shown_of_admitted {α : Type} {freeTexts : α → List String} {Sends : String → Prop}
    (hsends : ∀ text, Sends text → Inert text.toList) {items : List α}
    (h : Admitted Sends (items.flatMap freeTexts)) :
    ∀ a ∈ items, ∀ text ∈ freeTexts a, Inert text.toList := fun a ha text htext =>
  inert_of_admitted hsends h text (List.mem_flatMap.mpr ⟨a, ha, htext⟩)

variable {builder : TreeBuilder} {Sends : String → Prop}

include hdate in
/-- Inert texts keep the tags of the webhook page. -/
theorem webhooksKeepTags (hquiet : builder.Quiet pageElements)
    (hsends : ∀ text, Sends text → Inert text.toList) :
    WebhooksKeepTags builder browser Sends := by
  intro rows rows' total page pageSize totalPages halike hadmitted hadmitted'
  let row : WebhookLogRow → List Char := fun r => (webhookHtml browser (webhookLogItem r)).toList
  have hrows : SameTags pageElements (rows.flatMap row ++ "</tbody></table>".toList)
      (rows'.flatMap row ++ "</tbody></table>".toList) :=
    .flatMap halike (shown_of_admitted hsends hadmitted) (shown_of_admitted hsends hadmitted')
      (fun _ _ _ _ => sameTags_webhook hdate) (.refl (markup_literal rfl (by decide)))
  have htable : builder.tags (webhookTable browser (rows.map webhookLogItem)) =
      builder.tags (webhookTable browser (rows'.map webhookLogItem)) := by
    refine tags_eq_of_sameTags hquiet ?_
    rw [toList_webhookTable, toList_webhookTable, List.flatMap_map, List.flatMap_map]
    exact .markup markup_webhookHead hrows
  cases halike with
  | nil => rfl
  | cons hrow hrows =>
      rw [loadWebhooks_of_ne browser (List.cons_ne_nil _ _),
        loadWebhooks_of_ne browser (List.cons_ne_nil _ _)]
      simp only [htmlTags, List.filterMap_cons, List.filterMap_nil]
      rw [htable]

include hdate in
/-- … and those of the page of the alerts. -/
theorem alertsKeepTags (hquiet : builder.Quiet pageElements)
    (hsends : ∀ text, Sends text → Inert text.toList) :
    AlertsKeepTags builder browser Sends := by
  intro sources sources' halike hadmitted hadmitted'
  let box : AlertSource → List Char := fun source => (alertHtml browser source.alert).toList
  have hboxes : SameTags pageElements (sources.flatMap box ++ "</div>".toList)
      (sources'.flatMap box ++ "</div>".toList) :=
    .flatMap halike (shown_of_admitted hsends hadmitted) (shown_of_admitted hsends hadmitted')
      (fun _ _ _ _ => sameTags_alert hdate) (.refl (markup_literal rfl (by decide)))
  have hlist : builder.tags (alertBoxes browser (sources.map AlertSource.alert)) =
      builder.tags (alertBoxes browser (sources'.map AlertSource.alert)) := by
    refine tags_eq_of_sameTags hquiet ?_
    rw [toList_alertBoxes, toList_alertBoxes, List.flatMap_map, List.flatMap_map]
    exact .markup (markup_literal rfl (by decide)) hboxes
  cases halike with
  | nil => rfl
  | cons hsource hsources =>
      rw [List.map_cons, List.map_cons] at hlist ⊢
      rw [htmlTags_loadAlertsList builder browser (List.cons_ne_nil _ _),
        htmlTags_loadAlertsList builder browser (List.cons_ne_nil _ _), hlist]

end Kept

/-! ### Texts that keep the tags are inert -/

/-- A delivery without a valid signature, of these two texts. -/
def sampleRow (robotTaskCode method : String) : WebhookLogRow where
  id := 1
  createdAt := ⟨2026, 1, 1, 0, 0, 0, 0⟩
  log := ⟨robotTaskCode, method, some "x", none, none, false, false⟩

/-- The page with this entry, up to its first text. -/
def sampleFront (browser : Browser) : String :=
  webhookHead ++ "<tr><td class=\"mono\">#" ++ toString 1 ++ "</td><td>" ++
    UI.timeAgo browser (some (sampleRow "" "").createdAt.isoformat) ++
    "</td>\n          <td class=\"mono\" style=\"color:var(--accent-purple);\">"

/-- … between the two. -/
def sampleBetween : String :=
  "</td>\n          <td><span class=\"badge\" style=\"background:rgba(255,255,255,0.05);\">"

/-- … and behind them. -/
def sampleBehind : String :=
  "</span></td>\n          <td class=\"mono\">" ++ "x" ++ "</td>\n          <td>" ++
    "<span class=\"badge failed\"><span class=\"badge-dot\"></span>Geçersiz</span>" ++ " " ++ "" ++
    "</td></tr>" ++ "</tbody></table>"

def endTag (name : List Char) : Tag := ⟨true, name, []⟩

section Sample

variable {browser : Browser}

theorem sampleTable_eq (robotTaskCode method : String) :
    webhookTable browser [webhookLogItem (sampleRow robotTaskCode method)] =
      sampleFront browser ++ (robotTaskCode ++ (sampleBetween ++ (method ++ sampleBehind))) := by
  have hamr : (truthy (some "x")).getD "—" = "x" := by
    rw [truthy_some (by decide), Option.getD_some]
  rw [webhookTable, List.foldl_cons, List.foldl_nil]
  unfold webhookHtml sampleFront sampleBetween sampleBehind
  simp only [sampleRow, webhookLogItem, hamr, Bool.false_eq_true, if_false, String.append_assoc]

theorem markup_sampleFront (hdate : ∀ s, '<' ∉ (browser.toLocaleDateString s).toList) :
    Markup pageElements (sampleFront browser).toList := by
  simp only [sampleFront, String.toList_append]
  refine .append (.append (.append (.append (.append markup_webhookHead ?_) ?_) ?_) ?_) ?_
  · exact markup_literal rfl (by decide)
  · exact markup_literal rfl (by decide)
  · exact markup_literal rfl (by decide)
  · exact markup_of_plain (plain_timeAgo hdate _)
  · exact markup_literal rfl (by decide)

set_option maxRecDepth 4000 in
theorem markup_sampleBetween : Markup pageElements sampleBetween.toList :=
  markup_literal rfl (by decide)

set_option maxRecDepth 4000 in
/-- What stands behind each of the two texts begins with a tag of its own. -/
theorem sample_tags : ∃ between behind, sampleBetween = String.ofList between ∧
    sampleBehind = String.ofList behind ∧ Reveals (between ++ 'x' :: behind) (endTag ['t', 'd']) ∧
    firstTag .data behind = some (endTag ['s', 'p', 'a', 'n']) := by
  refine ⟨_, _, rfl, literal_append (literal_append (literal_append (literal_append (literal_append
    (literal_append (literal_append rfl rfl) rfl) rfl) rfl) rfl) rfl) rfl, ?_, by decide⟩
  exact ⟨by decide, by decide, by decide, by decide, by decide⟩

/-- The answer with one such entry. -/
def samplePage (robotTaskCode method : String) : Listing WebhookLogItem :=
  ⟨[sampleRow robotTaskCode method].map webhookLogItem, 1, 1, 30, 1⟩

variable {builder : TreeBuilder}

theorem htmlTags_samplePage (robotTaskCode method : String) :
    htmlTags builder (loadWebhooks browser (samplePage robotTaskCode method)) =
      [("wh-table", builder.tags (sampleFront browser ++
        (robotTaskCode ++ (sampleBetween ++ (method ++ sampleBehind))))),
      ("wh-pagination", builder.tags (UI.pagination 1 1 "App.goToWhPage"))] := by
  rw [loadWebhooks_of_ne browser (List.cons_ne_nil _ _), ← sampleTable_eq]
  rfl

/-- Pages of one entry that differ in the code: the first tag from there on. -/
theorem firstTag_robotTaskCode (hquiet : builder.Quiet pageElements)
    (hdate : ∀ s, '<' ∉ (browser.toLocaleDateString s).toList) {code code' method : String}
    (h : htmlTags builder (loadWebhooks browser (samplePage code method)) =
      htmlTags builder (loadWebhooks browser (samplePage code' method))) :
    firstTag .data (code ++ (sampleBetween ++ (method ++ sampleBehind))).toList =
      firstTag .data (code' ++ (sampleBetween ++ (method ++ sampleBehind))).toList := by
  simp only [htmlTags_samplePage, List.cons.injEq, Prod.mk.injEq, true_and, and_true] at h
  exact firstTag_eq_of_tags_eq hquiet (markup_sampleFront hdate) h

/-- … and in the method. -/
theorem firstTag_method (hquiet : builder.Quiet pageElements)
    (hdate : ∀ s, '<' ∉ (browser.toLocaleDateString s).toList) {method method' : String}
    (h : htmlTags builder (loadWebhooks browser (samplePage "x" method)) =
      htmlTags builder (loadWebhooks browser (samplePage "x" method'))) :
    firstTag .data (method ++ sampleBehind).toList =
      firstTag .data (method' ++ sampleBehind).toList := by
  have hfront : Markup pageElements (sampleFront browser ++ "x" ++ sampleBetween).toList := by
    simp only [String.toList_append]
    exact .append (.append (markup_sampleFront hdate) (markup_of_plain (by decide)))
      markup_sampleBetween
  simp only [htmlTags_samplePage, List.cons.injEq, Prod.mk.injEq, true_and, and_true] at h
  refine firstTag_eq_of_tags_eq hquiet hfront ?_
  simpa only [String.append_assoc] using h

theorem sampleRow_alike {code code' method method' : String} (hcode : code ≠ "")
    (hcode' : code' ≠ "") (hmethod : method ≠ "") (hmethod' : method' ≠ "") :
    (sampleRow code method).SenderAlike (sampleRow code' method') :=
  .inr ⟨⟨rfl, hcode, hmethod, "x", rfl, by decide⟩, ⟨rfl, hcode', hmethod', "x", rfl, by decide⟩,
    rfl⟩

theorem admitted_sampleRow {Sends : String → Prop} {code method : String}
    (hcode : Sends code ∨ '<' ∉ code.toList) (hmethod : Sends method ∨ '<' ∉ method.toList) :
    Admitted Sends ([sampleRow code method].flatMap WebhookLogRow.freeTexts) := by
  have htexts : [sampleRow code method].flatMap WebhookLogRow.freeTexts = [code, method, "x"] := by
    simp [WebhookLogRow.freeTexts, sampleRow, truthy_some (by decide : "x" ≠ "")]
  rw [htexts]
  intro text htext
  simp only [List.mem_cons, List.not_mem_nil, or_false] at htext
  rcases htext with rfl | rfl | rfl
  · exact hcode
  · exact hmethod
  · exact .inr (by decide)

/-- A text that can stand in either place without changing the tags is inert. -/
theorem inert_of_webhooksKeepTags (hquiet : builder.Quiet pageElements)
    (hdate : ∀ s, '<' ∉ (browser.toLocaleDateString s).toList) {Sends : String → Prop}
    (h : WebhooksKeepTags builder browser Sends) {text : String} (htext : Sends text) :
    Inert text.toList := by
  by_cases hempty : text = ""
  · rw [hempty]
    exact inert_of_plain (by decide)
  have hne : "x" ≠ "" := by decide
  have hx : Sends "x" ∨ '<' ∉ "x".toList := .inr (by decide)
  have hcode := firstTag_robotTaskCode hquiet hdate (h [sampleRow text "x"] [sampleRow "x" "x"]
    1 1 30 1 (.cons (sampleRow_alike hempty hne hne hne) .nil)
    (admitted_sampleRow (.inl htext) hx) (admitted_sampleRow hx hx))
  have hmethod := firstTag_method hquiet hdate (h [sampleRow "x" text] [sampleRow "x" "x"]
    1 1 30 1 (.cons (sampleRow_alike hne hne hempty hne) .nil)
    (admitted_sampleRow hx (.inl htext)) (admitted_sampleRow hx hx))
  obtain ⟨between, behind, hbetween, hbehind, hreveals, hspan⟩ := sample_tags
  have hxList : "x".toList = ['x'] := by rfl
  simp only [String.toList_append, hbetween, hbehind, String.toList_ofList, hxList,
    List.singleton_append] at hcode hmethod
  rw [firstTag_data_cons (by decide : 'x' ≠ '<'), hreveals.first] at hcode
  rw [firstTag_data_cons (by decide : 'x' ≠ '<'), hspan] at hmethod
  exact inert_of_firstTags hreveals hcode hmethod (by decide)

end Sample

/-- **Which texts keep the tags**: whatever the senders without a valid signature write, of all the
texts that are sent, the two pages have the same tags exactly when every such text is inert. -/
theorem keepTags_iff_inert (builder : TreeBuilder) (browser : Browser) (Sends : String → Prop)
    (hquiet : builder.Quiet pageElements)
    (hdate : ∀ s, '<' ∉ (browser.toLocaleDateString s).toList) :
    (WebhooksKeepTags builder browser Sends ∧ AlertsKeepTags builder browser Sends) ↔
      ∀ text, Sends text → Inert text.toList := by
  constructor
  · rintro ⟨hwebhooks, -⟩ text htext
    exact inert_of_webhooksKeepTags hquiet hdate hwebhooks htext
  · intro hsends
    exact ⟨webhooksKeepTags hdate hquiet hsends, alertsKeepTags hdate hquiet hsends⟩

/-- A tree builder that never leaves the markup, as a browser's does without elements of raw text
and without CDATA sections. -/
def markupBuilder : TreeBuilder where
  Raw := Empty
  enter _ _ := none
  cdata _ _ := none
  next _ _ state _ := state.elim

theorem markupBuilder_quiet (names : List (List Char)) : markupBuilder.Quiet names :=
  ⟨fun _ _ _ => rfl, fun _ _ _ _ => rfl⟩

/-- A browser some seconds after the entries. -/
def sampleBrowser : Browser where
  secondsSince _ := some 5
  toLocaleDateString _ := "01.01.2026"

theorem sampleBrowser_date (s : String) :
    '<' ∉ (sampleBrowser.toLocaleDateString s).toList :=
  (by decide : '<' ∉ "01.01.2026".toList)

theorem keepTags_of_comparison :
    WebhooksKeepTags markupBuilder sampleBrowser (· = "a < b && c <= d") ∧
      AlertsKeepTags markupBuilder sampleBrowser (· = "a < b && c <= d") := by
  refine (keepTags_iff_inert _ _ _ (markupBuilder_quiet _) sampleBrowser_date).mpr ?_
  rintro text rfl
  decide

/-- A delivery without a valid signature whose code is `<b>`, against one whose code is `x`. -/
theorem tag_in_robotTaskCode :
    [sampleRow "<b>" "x"].Forall₂ WebhookLogRow.SenderAlike [sampleRow "x" "x"] ∧
    htmlTags markupBuilder (loadWebhooks sampleBrowser (samplePage "<b>" "x")) ≠
      htmlTags markupBuilder (loadWebhooks sampleBrowser (samplePage "x" "x")) := by
  have hne : "x" ≠ "" := by decide
  refine ⟨.cons (sampleRow_alike (by decide) hne hne hne) .nil, fun h => ?_⟩
  have hfirst := firstTag_robotTaskCode (markupBuilder_quiet _) sampleBrowser_date h
  obtain ⟨between, behind, hbetween, hbehind, hreveals, -⟩ := sample_tags
  have hxList : "x".toList = ['x'] := by rfl
  have hbList : "<b>".toList = ['<', 'b', '>'] := by rfl
  simp only [String.toList_append, hbetween, hbehind, String.toList_ofList, hxList, hbList,
    List.cons_append, List.nil_append] at hfirst
  rw [firstTag_data_cons (by decide : 'x' ≠ '<'), hreveals.first] at hfirst
  have hb : ∀ rest, firstTag .data ('<' :: 'b' :: '>' :: rest) = some ⟨false, ['b'], []⟩ :=
    fun _ => rfl
  rw [hb] at hfirst
  cases hfirst

end Rcs
