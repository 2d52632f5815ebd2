import RcsMiddleware.Source.Listings
import RcsMiddleware.Source.Alerts

/-!
# Source — StaticJs

The pages of the dashboard that list webhooks and alerts (`static/js/app.js`), with the components
they are made of (`static/js/components.js`).  A function is modelled by what it writes into the
document, in order; the answer of the API is its argument.  What the browser says of dates is a
parameter, and its clock stands still while a page is written.
-/

namespace Rcs

open Support Support.Text

/-- What the components ask the browser. -/
structure Browser where
  /-- `Math.floor((now - d) / 1000)`; `none` when the date is invalid. -/
  secondsSince : String → Option Int
  /-- `d.toLocaleDateString('tr-TR')`. -/
  toLocaleDateString : String → String

/-- A change of the document. -/
inductive DomWrite where
  | innerHTML (id html : String)
  | textContent (id text : String)
  | display (id value : String)
  deriving DecidableEq, Repr

/-! ### `components.js` -/

namespace UI

/-- `icon('alert')`. -/
def iconAlert : String :=
  "<svg viewBox=\"0 0 24 24\" fill=\"none\" stroke=\"currentColor\" stroke-width=\"2\">" ++
    "<circle cx=\"12\" cy=\"12\" r=\"10\"/><line x1=\"12\" y1=\"8\" x2=\"12\" y2=\"12\"/>" ++
    "<line x1=\"12\" y1=\"16\" x2=\"12.01\" y2=\"16\"/></svg>"

/-- The statuses of these pages are in lower case already. -/
def badge (status : String) : String :=
  let s := ((truthy (some status)).getD "unknown").toLower
  "<span class=\"badge " ++ s ++ "\"><span class=\"badge-dot\"></span>" ++ s ++ "</span>"

def emptyState (msg : String) : String :=
  "<div class=\"empty-state\">" ++ iconAlert ++ "<p>" ++ msg ++ "</p></div>"

/-- A button that leads to a page. -/
def pageButton (attributes onClick : String) (page : Int) (label : String) : String :=
  "<button " ++ attributes ++ " onclick=\"" ++ onClick ++ "(" ++ toString page ++ ")\">" ++ label ++
    "</button>"

def pagination (page totalPages : Int) (onClick : String) : String :=
  if totalPages ≤ 1 then ""
  else
    let start := max 1 (page - 2)
    let stop := min totalPages (page + 2)
    let pages := (List.range (stop + 1 - start).toNat).map fun i => start + (i : Int)
    let html := "<div class=\"pagination\">" ++
      pageButton ("class=\"page-btn\" " ++ if page ≤ 1 then "disabled" else "") onClick
        (page - 1) "‹"
    let html := pages.foldl (fun html i => html ++
      pageButton ("class=\"page-btn " ++ (if i = page then "active" else "") ++ "\"") onClick i
        (toString i)) html
    html ++ "<span class=\"page-info\">" ++ toString page ++ " / " ++ toString totalPages ++
      "</span>" ++
      pageButton ("class=\"page-btn\" " ++ if page ≥ totalPages then "disabled" else "") onClick
        (page + 1) "›" ++ "</div>"

def timeAgo (browser : Browser) (isoStr : Option String) : String :=
  match truthy isoStr with
  | none => "—"
  | some isoStr =>
      match browser.secondsSince isoStr with
      | some s =>
          if s < 60 then toString s ++ "s önce"
          else if s < 3600 then toString (s / 60) ++ "dk önce"
          else if s < 86400 then toString (s / 3600) ++ "sa önce"
          else browser.toLocaleDateString isoStr
      | none => browser.toLocaleDateString isoStr

end UI

/-! ### `app.js` -/

/-- What `d.items.forEach(w => …)` adds in `loadWebhooks`. -/
def webhookHtml (browser : Browser) (w : WebhookLogItem) : String :=
  "<tr><td class=\"mono\">#" ++ toString w.id ++ "</td><td>" ++
    UI.timeAgo browser (some w.createdAt.isoformat) ++
    "</td>\n          <td class=\"mono\" style=\"color:var(--accent-purple);\">" ++
    w.robotTaskCode ++
    "</td>\n          <td><span class=\"badge\" style=\"background:rgba(255,255,255,0.05);\">" ++
    w.method ++ "</span></td>\n          <td class=\"mono\">" ++ (truthy w.amrCode).getD "—" ++
    "</td>\n          <td>" ++
    (if w.signatureValid then UI.badge "geçerli"
      else "<span class=\"badge failed\"><span class=\"badge-dot\"></span>Geçersiz</span>") ++
    " " ++
    (if w.duplicate then "<span style=\"font-size:10px;color:var(--text-muted);\">(Dedupe)</span>"
      else "") ++
    "</td></tr>"

/-- `loadWebhooks`, after the answer. -/
def loadWebhooks (browser : Browser) (d : Listing WebhookLogItem) : List DomWrite :=
  if d.items = [] then
    [.innerHTML "wh-table" (UI.emptyState "Log bulunamadı"), .innerHTML "wh-pagination" ""]
  else
    let html := "<table class=\"data-table\"><thead><tr><th>ID</th><th>Zaman</th>" ++
      "<th>Görev Kodu</th><th>Method</th><th>AMR</th><th>İmza</th></tr></thead><tbody>"
    let html := d.items.foldl (fun html w => html ++ webhookHtml browser w) html
    let html := html ++ "</tbody></table>"
    [.innerHTML "wh-table" html,
      .innerHTML "wh-pagination" (UI.pagination d.page d.totalPages "App.goToWhPage")]

/-- The box of an alert, up to its icon. -/
def alertOpening (isErr : Bool) : String :=
  "<div style=\"display:flex;gap:16px;padding:16px;border-radius:var(--radius-md);background:" ++
    (if isErr then "rgba(239,68,68,0.05)" else "rgba(245,158,11,0.05)") ++ ";border:1px solid " ++
    (if isErr then "rgba(239,68,68,0.2)" else "rgba(245,158,11,0.2)") ++
    ";\">\n          <div style=\"color:" ++
    (if isErr then "var(--accent-red)" else "var(--accent-amber)") ++ ";margin-top:2px;\">"

/-- The box of its details. -/
def detailsOpening : String :=
  "<div style=\"font-size:12px;color:var(--text-secondary);font-family:var(--font-mono);" ++
    "background:var(--bg-primary);padding:8px;border-radius:4px;\">"

/-- What `items.forEach(a => …)` adds in `loadAlertsList`. -/
def alertHtml (browser : Browser) (a : Alert) : String :=
  alertOpening (a.severity = "error") ++ UI.iconAlert ++
    "</div>\n          <div style=\"flex:1;\">\n            " ++
    "<div style=\"display:flex;justify-content:space-between;margin-bottom:6px;\">\n" ++
    "              <strong style=\"color:var(--text-primary);font-size:14px;\">" ++ a.message ++
    "</strong>\n              <span style=\"font-size:11px;color:var(--text-muted);\">" ++
    UI.timeAgo browser a.timestamp ++ "</span>\n            </div>\n            " ++
    (if a.details ≠ "" then detailsOpening ++ a.details ++ "</div>" else "") ++
    "\n          </div>\n        </div>"

/-- `loadAlertsList`, after the answer. -/
def loadAlertsList (browser : Browser) (items : List Alert) : List DomWrite :=
  [.display "alert-badge" (if 0 < items.length then "inline-block" else "none"),
    .textContent "alert-badge" (toString items.length),
    .innerHTML "alerts-list"
      (if items = [] then UI.emptyState "Aktif alarm bulunmuyor"
        else
          let html := "<div style=\"display:flex;flex-direction:column;gap:12px;\">"
          let html := items.foldl (fun html a => html ++ alertHtml browser a) html
          html ++ "</div>")]

end Rcs
