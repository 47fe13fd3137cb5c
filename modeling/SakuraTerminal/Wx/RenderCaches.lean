import SakuraTerminal.Foundations.MemoCache
import SakuraTerminal.Foundations.Refinement
import SakuraTerminal.Wx.RenderFrame

/-!
# Drawing with caches

`RenderFrame` of `src/wx/terminal_renderer.cpp` once more, as the calls it makes on a device
context: pens, brushes, the text colour and the font are members of the context that each drawing
call uses, and brushes, fonts, texts and bitmaps come out of caches (`ColorResourcesFor`,
`GlyphFont`, `GlyphText`, `GlyphRunBitmap`). A drawing call whose outcome cells cannot show, such as
a rectangle with an outline, fails here.

Whatever is in the caches after any run, no call fails and the picture is that of
`Renderer.renderFrame`, which has neither a context nor caches (`renderFrame_cached`). The counters
of the run agree with each other (`renderCounters_agree`).

Whether a bitmap of a size is valid does not change in a run. As in `RenderFrame`, glyphs lie inside
of the cells of their run.

The simulation is built from the inside out. Each cache answers a request with what would be made
anew (`CachesHold`), so each drawing call shows what the call without caches shows, and a loop of
such calls keeps the relation from one turn to the next. What the context is left with by one call
is only relied on by calls that set it first; `Ready` and `Holds` say the little that is kept
between two of them. The counters go along in the same proofs (`Balanced`).
-/

set_option autoImplicit false

namespace SakuraTerminal.Wx.Renderer

open SakuraTerminal.Core SakuraTerminal.Foundations SakuraTerminal.Foundations.MemoCache

/-! ## The device context -/

/-- A `wxPen`, as far as the renderer uses it. -/
inductive Pen where
  | transparent
  | solid (colour : Rgb)
  deriving DecidableEq, Repr

/-- A `wxBrush`. -/
inductive Brush where
  | transparent
  | solid (colour : Rgb)
  deriving DecidableEq, Repr

/-- What `GlyphFont` changes in the font of the terminal. -/
structure Font where
  bold : Bool
  italic : Bool
  underlined : Bool
  deriving DecidableEq, Repr

/-- The bits of the attributes that make this font. -/
def Font.attributes (font : Font) : UInt8 :=
  (if font.bold then 0x01 else 0) ||| (if font.italic then 0x02 else 0) |||
    (if font.underlined then 0x04 else 0)

/-- What was drawn on a bitmap of `GlyphRunBitmap`. The pixels of the bitmap are taken for these. -/
structure BitmapContents where
  background : Rgb
  foreground : Rgb
  font : Font
  glyph : List Nat
  deriving DecidableEq, Repr

/-- `wxDC`, and what the bitmap it draws on shows. A context may be used before, and `RenderFrame`
relies on none of its settings. -/
structure DeviceContext where
  pen : Pen
  brush : Brush
  textForeground : Rgb
  font : Option Font
  ppi : Int × Int
  picture : Picture PaintedCell

/-- What wxWidgets answers: the characters of a text, its extent in a font, and the validity and
depth of a bitmap. -/
structure WxToolkit where
  fromUtf8 : List UInt8 → List Nat
  textExtent : Int × Int → Font → List Nat → Int × Int
  bitmapIsOk : Int → Int → Bool
  bitmapDepth : Int

/-! ## The members -/

/-- What `ColorResourcesFor` keeps for a colour. -/
structure ColorResources where
  color : Rgb
  brush : Brush
  pen : Pen
  deriving DecidableEq, Repr

/-- The caches of `WxRenderer::Impl`. A font that is not valid is not there. -/
structure RenderCaches where
  colorResources : AList (fun _ : UInt32 => ColorResources) := ∅
  glyphFonts : UInt8 → Option Font := fun _ => none
  glyphTexts : AList (fun _ : List UInt8 => List Nat) := ∅
  glyphs : GlyphCache BitmapContents

/-- The counters of `WxPaintMetrics` that `RenderFrame` raises itself. -/
structure RenderCounters where
  dcStateChanges : Nat := 0
  backgroundRectangles : Nat := 0
  glyphRunSpans : Nat := 0
  glyphBitmapDraws : Nat := 0
  glyphTextDraws : Nat := 0
  glyphRunCacheBypasses : Nat := 0
  deriving DecidableEq, Repr

/-- The context that is drawn on, with the caches and the counters of the renderer. -/
structure Painter where
  dc : DeviceContext
  caches : RenderCaches
  counters : RenderCounters := {}

namespace Painter

/-! ## Calls on the context -/

/-- A call that changes the context, with the count of it. -/
def changeState (painter : Painter) (dc : DeviceContext) : Painter :=
  { painter with
    dc := dc
    counters :=
      { painter.counters with dcStateChanges := painter.counters.dcStateChanges + 1 } }

/-- `SetPen`. -/
def setPen (painter : Painter) (pen : Pen) : Painter :=
  painter.changeState { painter.dc with pen := pen }

/-- `SetBrush`. -/
def setBrush (painter : Painter) (brush : Brush) : Painter :=
  painter.changeState { painter.dc with brush := brush }

/-- `SetTextForeground`. -/
def setTextForeground (painter : Painter) (colour : Rgb) : Painter :=
  painter.changeState { painter.dc with textForeground := colour }

/-- `SetFont`. -/
def setFont (painter : Painter) (font : Font) : Painter :=
  painter.changeState { painter.dc with font := some font }

def draw (painter : Painter) (picture : Picture PaintedCell) : Painter :=
  { painter with dc := { painter.dc with picture := picture } }

/-- The colour of the cursor. -/
def cursorColour : Rgb := { red := 230, green := 230, blue := 230 }

/-- `DrawRectangle` fills cells with the brush, or draws the outline of a cell with the pen. -/
def drawRectangle (painter : Painter) (left top right bottom : Nat) : Option Painter :=
  match painter.dc.pen, painter.dc.brush with
  | .transparent, .solid colour =>
    some (painter.draw
      (Renderer.drawRectangle painter.dc.picture left top right bottom colour))
  | .solid colour, .transparent =>
    if colour = cursorColour ∧ right = left + 1 ∧ bottom = top + 1 then
      some (painter.draw (Renderer.drawCursor painter.dc.picture left top .block))
    else none
  | _, _ => none

/-- `DrawLine` along the bottom of cells. -/
def drawUnderline (painter : Painter) (row left right : Nat) : Option Painter :=
  match painter.dc.pen with
  | .solid colour =>
    some (painter.draw (Renderer.drawUnderline painter.dc.picture row left right colour))
  | .transparent => none

/-- `DrawLine` for the cursor of a cell. -/
def drawCursorLine (painter : Painter) (x y : Nat) (style : CursorStyle) : Option Painter :=
  if painter.dc.pen = .solid cursorColour then
    some (painter.draw (Renderer.drawCursor painter.dc.picture x y style))
  else none

/-- `DrawText` at the cells of a run. -/
def drawText (painter : Painter) (row : Nat) (run : RunView) (glyph : List Nat) :
    Option Painter :=
  match painter.dc.font with
  | some font =>
    some (painter.draw (Renderer.drawText painter.dc.picture row run
      { left := run.left
        cellCount := run.cellCount
        glyph := glyph
        font := font.attributes
        foreground := painter.dc.textForeground }))
  | none => none

/-- `DrawBitmap` at the cells of a run. -/
def drawBitmap (painter : Painter) (row : Nat) (run : RunView)
    (bitmap : WxBitmap BitmapContents) : Option Painter :=
  if bitmap.isOk then
    some (painter.draw (Renderer.drawBitmap painter.dc.picture row
      { run with background := bitmap.pixels.background }
      { left := run.left
        cellCount := run.cellCount
        glyph := bitmap.pixels.glyph
        font := bitmap.pixels.font.attributes
        foreground := bitmap.pixels.foreground }))
  else none

/-! ## The caches -/

/-- The limit of `color_resources_` and of `glyph_texts_`. -/
def maximumEntries : Nat := 4096

/-- What is made for a colour. -/
def newColorResources (colour : Rgb) : ColorResources := ⟨colour, .solid colour, .solid colour⟩

/-- `ColorResourcesFor`: a full cache is cleared before another colour is stored. -/
def colorResourcesFor (painter : Painter) (colour : Rgb) : ColorResources × Painter :=
  let found := memo maximumEntries (newColorResources colour) painter.caches.colorResources
    (colorKey colour)
  (found.1, { painter with caches := { painter.caches with colorResources := found.2 } })

/-- The font of `GlyphFont` for attributes. -/
def fontFor (attributes : UInt8) : Font where
  bold := attributes &&& 0x01 != 0
  italic := attributes &&& 0x02 != 0
  underlined := attributes &&& 0x04 != 0

/-- `GlyphFont`, which needs three of the attributes and keeps a font for each of their values. -/
def glyphFont (painter : Painter) (attributes : UInt8) : Font × Painter :=
  let index := attributes &&& 0x07
  match painter.caches.glyphFonts index with
  | some font => (font, painter)
  | none =>
    let font := fontFor attributes
    (font, { painter with
      caches := { painter.caches with
        glyphFonts := fun i => if i = index then some font else painter.caches.glyphFonts i } })

/-- A text ends at its first NUL. -/
def decodeText (wx : WxToolkit) (text : List UInt8) : List Nat :=
  wx.fromUtf8 (text.takeWhile (· != 0))

/-- `GlyphText`. -/
def glyphText (wx : WxToolkit) (painter : Painter) (text : List UInt8) : List Nat × Painter :=
  let found := memo maximumEntries (decodeText wx text) painter.caches.glyphTexts text
  (found.1, { painter with caches := { painter.caches with glyphTexts := found.2 } })

/-- The arguments of `GlyphRunBitmap` with what wxWidgets answers. -/
def glyphRunRequest (wx : WxToolkit) (ppi : Int × Int) (run : RunView) (glyph : List Nat)
    (font : Font) : GlyphRunRequest BitmapContents where
  text := run.text
  cellCount := UInt32.ofNat run.cellCount
  attributes := run.attributes
  foreground := run.foreground
  background := run.background
  ppi := ppi
  measuredSize := wx.textExtent ppi font glyph
  drawnBitmap := fun width height =>
    { isOk := wx.bitmapIsOk width height
      width := width
      height := height
      depth := wx.bitmapDepth
      pixels := ⟨run.background, run.foreground, font, glyph⟩ }

/-- `GlyphRunBitmap`, which needs the font for a bitmap that is not in the cache. -/
def glyphRunBitmap (wx : WxToolkit) (painter : Painter) (run : RunView) (glyph : List Nat) :
    WxBitmap BitmapContents × Painter :=
  let request := glyphRunRequest wx painter.dc.ppi run glyph
  let key := glyphRunKey painter.caches.glyphs (request (fontFor run.attributes))
  match painter.caches.glyphs.glyphRuns.lookup key with
  | some _ =>
    let answer := Wx.glyphRunBitmap painter.caches.glyphs (request (fontFor run.attributes))
    (answer.1, { painter with caches := { painter.caches with glyphs := answer.2 } })
  | none =>
    let font := painter.glyphFont run.attributes
    let painter := font.2.setFont font.1
    let answer := Wx.glyphRunBitmap painter.caches.glyphs (request font.1)
    (answer.1, { painter with caches := { painter.caches with glyphs := answer.2 } })

/-! ## The source -/

section source

variable (wx : WxToolkit) (config : RenderConfig) (frame : PackedFrame) (info : RenderInfo)

/-- The painter in the loop over the backgrounds of a row. -/
structure BackgroundPainting where
  painter : Painter
  pending : Option PendingBackground := none

def flushBackground (row : Nat) (pass : BackgroundPainting) : Option BackgroundPainting :=
  match pass.pending with
  | none => some pass
  | some pending =>
    let resources := pass.painter.colorResourcesFor pending.colour
    ((resources.2.setBrush resources.1.brush).drawRectangle pending.left row pending.right
      (row + 1)).map fun painter =>
        { painter := { painter with
            counters := { painter.counters with
              backgroundRectangles := painter.counters.backgroundRectangles + 1 } } }

/-- The background of one run. -/
def backgroundOf (colour : Rgb) (left right : Nat) (ordered : left < right) : PendingBackground :=
  { key := colorKey colour
    colour := colour
    left := left
    right := right
    keyed := rfl
    ordered := ordered }

theorem drawLeft_lt {clip : DirtyRegion} {run : RunView}
    (h : ¬ drawLeft clip run ≥ drawRight info clip run) :
    drawLeft clip run < drawRight info clip run := Nat.lt_of_not_le h

/-- One turn of the loop over the backgrounds of a row. -/
def renderBackground (clip : DirtyRegion) (row : Nat) (pass : BackgroundPainting)
    (run : RunView) : Option BackgroundPainting :=
  if h : drawLeft clip run ≥ drawRight info clip run then some pass
  else if colorKey run.background = colorKey config.themeBackground then flushBackground row pass
  else
    let new := backgroundOf run.background (drawLeft clip run) (drawRight info clip run)
      (drawLeft_lt info h)
    match pass.pending with
    | none => some { pass with pending := some new }
    | some pending =>
      if hsame : pending.key = new.key ∧ pending.right = new.left then
        some { pass with
          pending := some
            { pending with
              right := new.right
              ordered := Nat.lt_trans (hsame.2 ▸ pending.ordered) new.ordered } }
      else (flushBackground row pass).map fun pass => { pass with pending := some new }

def renderBackgrounds (clip : DirtyRegion) (row : Nat) (runs : List RunView)
    (painter : Painter) : Option Painter :=
  ((runs.foldlM (renderBackground config info clip row) ⟨painter, none⟩).bind
    (flushBackground row)).map BackgroundPainting.painter

/-- The text colour and the font are set before a text is drawn. -/
def drawTextWith (row : Nat) (painter : Painter) (run : RunView) (glyph : List Nat) :
    Option Painter :=
  let resources := painter.colorResourcesFor run.foreground
  let font := (resources.2.setTextForeground resources.1.color).glyphFont run.attributes
  ((font.2.setFont font.1).drawText row run glyph).map fun painter =>
    { painter with
      counters :=
        { painter.counters with glyphTextDraws := painter.counters.glyphTextDraws + 1 } }

/-- A run that is drawn as a text because the frame scrolls is counted. -/
def countBypass (painter : Painter) : Painter :=
  { painter with
    counters := { painter.counters with
      glyphRunCacheBypasses := painter.counters.glyphRunCacheBypasses +
        if config.glyphCacheEnabled && config.glyphCacheBypassScroll && info.scrollDelta != 0 then 1
        else 0 } }

def drawGlyphRun (row : Nat) (painter : Painter) (run : RunView) (glyph : List Nat) :
    Option Painter :=
  if cacheGlyphs config info then
    let bitmap := painter.glyphRunBitmap wx run glyph
    if bitmap.1.isOk then
      (bitmap.2.drawBitmap row run bitmap.1).map fun painter =>
        { painter with
          counters :=
            { painter.counters with glyphBitmapDraws := painter.counters.glyphBitmapDraws + 1 } }
    else drawTextWith row bitmap.2 run glyph
  else drawTextWith row (painter.countBypass config info) run glyph

def drawTextRun (row : Nat) (painter : Painter) (run : RunView) : Option Painter :=
  if run.text.isEmpty || run.text.all (· == 0x20) then some painter
  else
    let glyph := painter.glyphText wx run.text
    if glyph.1.isEmpty then some glyph.2
    else
      drawGlyphRun wx config info row
        { glyph.2 with
          counters :=
            { glyph.2.counters with glyphRunSpans := glyph.2.counters.glyphRunSpans + 1 } }
        run glyph.1

def underlineRun (clip : DirtyRegion) (row : Nat) (painter : Painter) (run : RunView) :
    Option Painter :=
  if underlined run then
    let resources := painter.colorResourcesFor run.foreground
    ((resources.2.setPen resources.1.pen).drawUnderline row (drawLeft clip run)
      (drawRight info clip run)).map fun painter => painter.setPen .transparent
  else some painter

/-- One turn of the loop over the runs of a row. -/
def renderRun (clip : DirtyRegion) (row : Nat) (painter : Painter) (run : RunView) :
    Option Painter :=
  if drawLeft clip run ≥ drawRight info clip run then some painter
  else
    (drawTextRun wx config info row painter run).bind fun painter =>
      underlineRun info clip row painter run

def renderRow (clip : DirtyRegion) (painter : Painter) (row : Nat) : Option Painter :=
  let runs := rowRuns config frame info row
  (renderBackgrounds config info clip row runs painter).bind fun painter =>
    runs.foldlM (renderRun wx config info clip row) painter

def renderCursor (clip : DirtyRegion) (painter : Painter) : Option Painter :=
  let cursorInDirtyRegion := clip.left ≤ info.cursorX ∧ info.cursorX < clip.right ∧
    clip.top ≤ info.cursorY ∧ info.cursorY < clip.bottom
  if cursorInDirtyRegion ∧ info.cursorVisible = true ∧ info.cursorX < info.columns ∧
      info.cursorY < info.rows then
    let painter := (painter.setBrush .transparent).setPen (.solid cursorColour)
    match info.cursorStyle with
    | .block =>
      painter.drawRectangle info.cursorX info.cursorY (info.cursorX + 1) (info.cursorY + 1)
    | style => painter.drawCursorLine info.cursorX info.cursorY style
  else some painter

/-- `RenderFrame` on a device context; it fails if one of its drawing calls does. -/
def renderFrame (dirty : DirtyRegion) (painter : Painter) : Option Painter :=
  if dirty.left ≥ dirty.right ∨ dirty.top ≥ dirty.bottom ∨ info.columns = 0 ∨ info.rows = 0 then
    some painter
  else
    let clip := clipDirty info dirty
    if clip.left ≥ clip.right ∨ clip.top ≥ clip.bottom then some painter
    else
      let painter := (painter.setPen .transparent).setBrush (.solid config.themeBackground)
      let rows := List.range' clip.top (clip.bottom - clip.top)
      ((painter.drawRectangle clip.left clip.top clip.right clip.bottom).bind fun painter =>
        rows.foldlM (renderRow wx config frame info clip)
          { painter with
            counters := { painter.counters with
              backgroundRectangles := painter.counters.backgroundRectangles + 1 } }).bind
        (renderCursor info clip)

end source

/-! ## What the caches hold -/

/-- The request for a run. -/
def runRequest (wx : WxToolkit) (ppi : Int × Int) (run : RunView) :
    GlyphRunRequest BitmapContents :=
  glyphRunRequest wx ppi run (decodeText wx run.text) (fontFor run.attributes)

/-- The bitmap of a run as it is drawn for cells of a size. -/
def uncachedBitmap (wx : WxToolkit) (cellWidth cellHeight : Int) (ppi : Int × Int)
    (run : RunView) : WxBitmap BitmapContents :=
  newBitmap { config := ⟨0, 0⟩, glyphFontIdentity := 0, cellWidth, cellHeight }
    (runRequest wx ppi run)

/-- A drawing without caches. -/
def uncached (wx : WxToolkit) (cellWidth cellHeight : Int) (ppi : Int × Int) : Toolkit where
  fromUtf8 := wx.fromUtf8
  bitmapIsOk run := (uncachedBitmap wx cellWidth cellHeight ppi run).isOk

/-- The bitmap is that of every run with the key. -/
def ShowsRun (wx : WxToolkit) (key : GlyphRunKey) (bitmap : WxBitmap BitmapContents) : Prop :=
  ∀ (cache : GlyphCache BitmapContents) ppi run, glyphRunKey cache (runRequest wx ppi run) = key →
    bitmap = uncachedBitmap wx cache.cellWidth cache.cellHeight ppi run

/-- What is in the caches is what would be made anew. Nothing is said of what is missing in a cache,
since it is made when it is asked for. -/
structure CachesHold (wx : WxToolkit) (caches : RenderCaches) : Prop where
  colours : Remembers maximumEntries colorKey newColorResources caches.colorResources
  fonts : ∀ index font, caches.glyphFonts index = some font → font = fontFor index
  texts : Remembers maximumEntries id (decodeText wx) caches.glyphTexts
  glyphs : ∀ key entry, caches.glyphs.glyphRuns.lookup key = some entry →
    ShowsRun wx key entry.resource.bitmap

section lookups

variable {wx : WxToolkit} {cache : GlyphCache BitmapContents} {key : GlyphRunKey}
  {entry : GlyphRunCacheEntry BitmapContents} {request : GlyphRunRequest BitmapContents}

theorem showsRun_newBitmap (cache : GlyphCache BitmapContents) (ppi : Int × Int)
    (run : RunView) :
    ShowsRun wx (glyphRunKey cache (runRequest wx ppi run))
      (newBitmap cache (runRequest wx ppi run)) := by
  intro other ppi' run' hkey
  simp only [glyphRunKey, runRequest, glyphRunRequest, GlyphRunKey.mk.injEq] at hkey
  obtain ⟨htext, hforeground, hbackground, -, hcount, hattributes, hwidth, hheight, hx, hy⟩ := hkey
  have hppi : ppi' = ppi := Prod.ext hx hy
  simp only [uncachedBitmap, newBitmap, runRequest, glyphRunRequest, htext, hattributes, hcount,
    hwidth, hheight, hppi, colorKey_injective hforeground, colorKey_injective hbackground]

theorem lookup_erase_eq_some {k : GlyphRunKey}
    (h : (cache.glyphRuns.erase k).lookup key = some entry) :
    cache.glyphRuns.lookup key = some entry := by
  by_cases heq : key = k
  · rw [heq, AList.lookup_erase] at h
    cases h
  · rwa [AList.lookup_erase_ne heq] at h

/-- Evictions add nothing. -/
theorem lookup_evict
    (h : (evictLeastRecentlyUsedGlyphRun cache).glyphRuns.lookup key = some entry) :
    cache.glyphRuns.lookup key = some entry := by
  unfold evictLeastRecentlyUsedGlyphRun at h
  split at h
  · exact h
  · simp only [updateGlyphCacheMetrics] at h
    split at h
    · exact h
    · exact lookup_erase_eq_some h

theorem lookup_evictUntilFits {bytes : UInt64}
    (h : (evictUntilFits cache bytes).glyphRuns.lookup key = some entry) :
    cache.glyphRuns.lookup key = some entry := by
  fun_induction evictUntilFits cache bytes with
  | case1 cache hover ih => exact lookup_evict (ih h)
  | case2 cache hover => exact h

/-- A request adds its own bitmap at most. -/
theorem lookup_glyphRunBitmap
    (h : (Wx.glyphRunBitmap cache request).2.glyphRuns.lookup key = some entry) :
    cache.glyphRuns.lookup key = some entry ∨
      key = glyphRunKey cache request ∧ entry.resource.bitmap = newBitmap cache request := by
  cases hlookup : cache.glyphRuns.lookup (glyphRunKey cache request) with
  | some found =>
    rw [glyphRunBitmap_hit hlookup] at h
    exact .inl h
  | none =>
    cases hcacheable : cacheable cache.config (newBitmap cache request) with
    | true =>
      rw [glyphRunBitmap_store hlookup hcacheable] at h
      simp only [insertGlyphRun, updateGlyphCacheMetrics] at h
      by_cases heq : key = glyphRunKey cache request
      · rw [heq, AList.lookup_insert, Option.some.injEq] at h
        exact .inr ⟨heq, h ▸ rfl⟩
      · rw [AList.lookup_insert_ne heq] at h
        exact .inl (@lookup_evictUntilFits (countMiss cache) _ _ _ h)
    | false =>
      rw [glyphRunBitmap_bypass hlookup hcacheable] at h
      exact .inl h

end lookups

/-! ### What requests leave alone -/

/-- An eviction changes neither the size of cells nor the counters of requests. -/
structure SameSetting (cache cache' : GlyphCache BitmapContents) : Prop where
  cellWidth : cache'.cellWidth = cache.cellWidth
  cellHeight : cache'.cellHeight = cache.cellHeight
  hits : cache'.metrics.hits = cache.metrics.hits
  misses : cache'.metrics.misses = cache.metrics.misses

theorem SameSetting.trans {cache cache' cache'' : GlyphCache BitmapContents}
    (h : SameSetting cache cache') (h' : SameSetting cache' cache'') : SameSetting cache cache'' :=
  ⟨h'.cellWidth.trans h.cellWidth, h'.cellHeight.trans h.cellHeight, h'.hits.trans h.hits,
    h'.misses.trans h.misses⟩

theorem sameSetting_evict (cache : GlyphCache BitmapContents) :
    SameSetting cache (evictLeastRecentlyUsedGlyphRun cache) := by
  unfold evictLeastRecentlyUsedGlyphRun
  split
  · exact ⟨rfl, rfl, rfl, rfl⟩
  · dsimp only
    split <;> exact ⟨rfl, rfl, rfl, rfl⟩

theorem sameSetting_evictUntilFits (cache : GlyphCache BitmapContents) (bytes : UInt64) :
    SameSetting cache (evictUntilFits cache bytes) := by
  fun_induction evictUntilFits cache bytes with
  | case1 cache hover ih => exact (sameSetting_evict cache).trans ih
  | case2 cache hover => exact ⟨rfl, rfl, rfl, rfl⟩

/-- The requests to the cache. -/
def asked (cache : GlyphCache BitmapContents) : Nat := cache.metrics.hits + cache.metrics.misses

/-- A request counts once, as a hit or as a miss. -/
theorem glyphRunBitmap_asks (cache : GlyphCache BitmapContents)
    (request : GlyphRunRequest BitmapContents) :
    (Wx.glyphRunBitmap cache request).2.cellWidth = cache.cellWidth ∧
      (Wx.glyphRunBitmap cache request).2.cellHeight = cache.cellHeight ∧
      asked (Wx.glyphRunBitmap cache request).2 = asked cache + 1 := by
  cases hlookup : cache.glyphRuns.lookup (glyphRunKey cache request) with
  | some found =>
    rw [glyphRunBitmap_hit hlookup]
    exact ⟨rfl, rfl, Nat.add_right_comm _ 1 _⟩
  | none =>
    cases hcacheable : cacheable cache.config (newBitmap cache request) with
    | true =>
      have hsame := sameSetting_evictUntilFits (countMiss cache)
        (bitmapBytes (newBitmap cache request))
      rw [glyphRunBitmap_store hlookup hcacheable]
      simp only [asked, insertGlyphRun, updateGlyphCacheMetrics]
      exact ⟨hsame.cellWidth, hsame.cellHeight, by rw [hsame.hits, hsame.misses]; rfl⟩
    | false =>
      rw [glyphRunBitmap_bypass hlookup hcacheable]
      exact ⟨rfl, rfl, rfl⟩

/-! ### What the painter keeps -/

/-- The counters that depend on each other. The others of the counters are raised on their own. -/
structure Tally where
  spans : Nat
  bitmapDraws : Nat
  textDraws : Nat
  bypasses : Nat
  asked : Nat
  deriving DecidableEq, Repr

def tally (counters : RenderCounters) (caches : RenderCaches) : Tally where
  spans := counters.glyphRunSpans
  bitmapDraws := counters.glyphBitmapDraws
  textDraws := counters.glyphTextDraws
  bypasses := counters.glyphRunCacheBypasses
  asked := asked caches.glyphs

/-- The painter draws for cells of this size on a context of this resolution. No call of a frame
changes any of these. -/
structure Holds (wx : WxToolkit) (cellWidth cellHeight : Int) (ppi : Int × Int)
    (painter : Painter) : Prop where
  caches : CachesHold wx painter.caches
  cellWidth : painter.caches.glyphs.cellWidth = cellWidth
  cellHeight : painter.caches.glyphs.cellHeight = cellHeight
  ppi : painter.dc.ppi = ppi

section holds

variable {wx : WxToolkit} {cellWidth cellHeight : Int} {ppi : Int × Int} {painter : Painter}

theorem fontFor_and (attributes : UInt8) : fontFor (attributes &&& 0x07) = fontFor attributes := by
  have h : ∀ bits : BitVec 8, fontFor (.ofBitVec bits &&& 0x07) = fontFor (.ofBitVec bits) := by
    decide
  exact h attributes.toBitVec

theorem attributes_fontFor (attributes : UInt8) :
    (fontFor attributes).attributes = attributes &&& 0x07 := by
  have h : ∀ bits : BitVec 8, (fontFor (.ofBitVec bits)).attributes = .ofBitVec bits &&& 0x07 := by
    decide
  exact h attributes.toBitVec

/-- A colour is answered with what would be made for it. -/
theorem Holds.colorResourcesFor (h : Holds wx cellWidth cellHeight ppi painter) (colour : Rgb) :
    (painter.colorResourcesFor colour).1 = newColorResources colour ∧
      Holds wx cellWidth cellHeight ppi (painter.colorResourcesFor colour).2 := by
  have hcolours := h.caches.colours
  have hkey : ∀ x y, colorKey x = colorKey y → newColorResources x = newColorResources y :=
    fun x y hxy => congrArg newColorResources (colorKey_injective hxy)
  refine ⟨memo_fst hcolours colour, ?_⟩
  exact
    { caches := { h.caches with colours := hcolours.memo hkey (by decide) colour }
      cellWidth := h.cellWidth
      cellHeight := h.cellHeight
      ppi := h.ppi }

/-- A text is answered with its characters. -/
theorem Holds.glyphText (h : Holds wx cellWidth cellHeight ppi painter) (text : List UInt8) :
    (painter.glyphText wx text).1 = decodeText wx text ∧
      Holds wx cellWidth cellHeight ppi (painter.glyphText wx text).2 := by
  have htexts := h.caches.texts
  have hkey : ∀ x y : List UInt8, id x = id y → decodeText wx x = decodeText wx y :=
    fun x y hxy => congrArg (decodeText wx) hxy
  refine ⟨memo_fst htexts text, ?_⟩
  exact
    { caches := { h.caches with texts := htexts.memo hkey (by decide) text }
      cellWidth := h.cellWidth
      cellHeight := h.cellHeight
      ppi := h.ppi }

theorem glyphFont_of_some {attributes : UInt8} {font : Font}
    (h : painter.caches.glyphFonts (attributes &&& 0x07) = some font) :
    painter.glyphFont attributes = (font, painter) := by
  simp only [glyphFont, h]

theorem glyphFont_of_none {attributes : UInt8}
    (h : painter.caches.glyphFonts (attributes &&& 0x07) = none) :
    painter.glyphFont attributes = (fontFor attributes, { painter with
      caches := { painter.caches with
        glyphFonts := fun i => if i = attributes &&& 0x07 then some (fontFor attributes)
          else painter.caches.glyphFonts i } }) := by
  simp only [glyphFont, h]

/-- Attributes are answered with their font; the three bits of the index are all that it depends
on. -/
theorem Holds.glyphFont (h : Holds wx cellWidth cellHeight ppi painter) (attributes : UInt8) :
    (painter.glyphFont attributes).1 = fontFor attributes ∧
      Holds wx cellWidth cellHeight ppi (painter.glyphFont attributes).2 ∧
      (painter.glyphFont attributes).2.dc = painter.dc ∧
      (painter.glyphFont attributes).2.counters = painter.counters ∧
      (painter.glyphFont attributes).2.caches.glyphs = painter.caches.glyphs := by
  cases hfont : painter.caches.glyphFonts (attributes &&& 0x07) with
  | some font =>
    rw [glyphFont_of_some hfont]
    refine ⟨?_, h, rfl, rfl, rfl⟩
    rw [← fontFor_and]
    exact h.caches.fonts _ font hfont
  | none =>
    rw [glyphFont_of_none hfont]
    refine ⟨rfl, ?_, rfl, rfl, rfl⟩
    refine
      { caches := { h.caches with fonts := ?_ }
        cellWidth := h.cellWidth
        cellHeight := h.cellHeight
        ppi := h.ppi }
    intro index font hindex
    dsimp only at hindex
    by_cases heq : index = attributes &&& 0x07
    · rw [if_pos heq, Option.some.injEq] at hindex
      rw [← hindex, heq, fontFor_and]
    · rw [if_neg heq] at hindex
      exact h.caches.fonts index font hindex

/-- A call on the context that leaves its resolution. -/
theorem Holds.changeState (h : Holds wx cellWidth cellHeight ppi painter) {dc : DeviceContext}
    (hppi : dc.ppi = ppi) : Holds wx cellWidth cellHeight ppi (painter.changeState dc) :=
  ⟨h.caches, h.cellWidth, h.cellHeight, hppi⟩

/-- The bitmap of a request, found or made. -/
theorem Holds.answer (h : Holds wx cellWidth cellHeight ppi painter) (run : RunView) :
    (Wx.glyphRunBitmap painter.caches.glyphs (runRequest wx ppi run)).1 =
        uncachedBitmap wx cellWidth cellHeight ppi run ∧
      CachesHold wx { painter.caches with
        glyphs := (Wx.glyphRunBitmap painter.caches.glyphs (runRequest wx ppi run)).2 } := by
  have hnew : ShowsRun wx (glyphRunKey painter.caches.glyphs (runRequest wx ppi run))
      (newBitmap painter.caches.glyphs (runRequest wx ppi run)) :=
    showsRun_newBitmap painter.caches.glyphs ppi run
  constructor
  · cases hlookup : painter.caches.glyphs.glyphRuns.lookup
        (glyphRunKey painter.caches.glyphs (runRequest wx ppi run)) with
    | some found =>
      have hshows := h.caches.glyphs _ found hlookup painter.caches.glyphs ppi run rfl
      rw [h.cellWidth, h.cellHeight] at hshows
      rw [glyphRunBitmap_hit hlookup]
      exact hshows
    | none =>
      have hshows := hnew painter.caches.glyphs ppi run rfl
      rw [h.cellWidth, h.cellHeight] at hshows
      rw [← hshows]
      unfold Wx.glyphRunBitmap
      simp only [hlookup]
      split <;> rfl
  · refine { h.caches with glyphs := ?_ }
    intro key entry hentry
    rcases lookup_glyphRunBitmap hentry with hold | ⟨rfl, hbitmap⟩
    · exact h.caches.glyphs key entry hold
    · rw [hbitmap]
      exact hnew

@[simp]
theorem colorResourcesFor_dc (colour : Rgb) :
    (painter.colorResourcesFor colour).2.dc = painter.dc := rfl

@[simp]
theorem glyphText_dc (text : List UInt8) : (painter.glyphText wx text).2.dc = painter.dc := rfl

/-- A bitmap that is in the cache is returned without a font. -/
theorem glyphRunBitmap_of_some {run : RunView} {entry : GlyphRunCacheEntry BitmapContents}
    (hentry : painter.caches.glyphs.glyphRuns.lookup
      (glyphRunKey painter.caches.glyphs (runRequest wx painter.dc.ppi run)) = some entry) :
    painter.glyphRunBitmap wx run (decodeText wx run.text) =
      ((Wx.glyphRunBitmap painter.caches.glyphs (runRequest wx painter.dc.ppi run)).1,
        { painter with
          caches := { painter.caches with
            glyphs :=
              (Wx.glyphRunBitmap painter.caches.glyphs (runRequest wx painter.dc.ppi run)).2 } })
    := by
  unfold runRequest at hentry
  simp only [Painter.glyphRunBitmap, hentry]
  rfl

/-- A bitmap that is not in the cache is drawn with the font, which the context keeps. -/
theorem glyphRunBitmap_of_none {run : RunView}
    (hnone : painter.caches.glyphs.glyphRuns.lookup
      (glyphRunKey painter.caches.glyphs (runRequest wx painter.dc.ppi run)) = none)
    {font : Font × Painter} (hfont : painter.glyphFont run.attributes = font)
    (hvalue : font.1 = fontFor run.attributes)
    (hglyphs : font.2.caches.glyphs = painter.caches.glyphs) :
    painter.glyphRunBitmap wx run (decodeText wx run.text) =
      ((Wx.glyphRunBitmap painter.caches.glyphs (runRequest wx painter.dc.ppi run)).1,
        { font.2.setFont (fontFor run.attributes) with
          caches := { font.2.caches with
            glyphs :=
              (Wx.glyphRunBitmap painter.caches.glyphs (runRequest wx painter.dc.ppi run)).2 } })
    := by
  unfold runRequest at hnone
  simp only [Painter.glyphRunBitmap, hnone, hfont, hvalue, setFont, changeState, hglyphs,
    runRequest]

/-- The bitmap of `GlyphRunBitmap` is the one that would be drawn without a cache. -/
theorem Holds.glyphRunBitmap (h : Holds wx cellWidth cellHeight ppi painter) (run : RunView) :
    ∃ painter', painter.glyphRunBitmap wx run (decodeText wx run.text) =
        (uncachedBitmap wx cellWidth cellHeight ppi run, painter') ∧
      Holds wx cellWidth cellHeight ppi painter' ∧ painter'.dc.picture = painter.dc.picture ∧
      painter'.dc.pen = painter.dc.pen ∧
      tally painter'.counters painter'.caches =
        { tally painter.counters painter.caches with
          asked := asked painter.caches.glyphs + 1 } := by
  obtain ⟨hbitmap, hcaches⟩ := h.answer run
  have hppi := h.ppi
  subst hppi
  obtain ⟨hwidth, hheight, hasks⟩ := glyphRunBitmap_asks painter.caches.glyphs
    (runRequest wx painter.dc.ppi run)
  cases hlookup : painter.caches.glyphs.glyphRuns.lookup
      (glyphRunKey painter.caches.glyphs (runRequest wx painter.dc.ppi run)) with
  | some entry =>
    refine ⟨_, (glyphRunBitmap_of_some hlookup).trans (Prod.ext hbitmap rfl), ?_, rfl, rfl, ?_⟩
    · exact ⟨hcaches, hwidth.trans h.cellWidth, hheight.trans h.cellHeight, rfl⟩
    · simp only [tally, hasks]
  | none =>
    obtain ⟨hvalue, hholds, hdc, hcounters, hglyphs⟩ := h.glyphFont run.attributes
    have hpicture := congrArg DeviceContext.picture hdc
    have hpen := congrArg DeviceContext.pen hdc
    refine ⟨_, (glyphRunBitmap_of_none hlookup rfl hvalue hglyphs).trans (Prod.ext hbitmap rfl),
      ?_, ?_, ?_, ?_⟩
    · exact
        { caches := { hholds.caches with glyphs := hcaches.glyphs }
          cellWidth := hwidth.trans h.cellWidth
          cellHeight := hheight.trans h.cellHeight
          ppi := hholds.ppi }
    · exact hpicture
    · exact hpen
    · simp only [tally, hasks, setFont, Painter.changeState, hcounters]

end holds

/-! ## Each part draws what it draws without caches -/

/-- Every span was drawn as a bitmap or as a text, and those that were asked of the cache, and those
that went past it, are among them. A span that was asked for is drawn as a text all the same if its
bitmap is not valid. -/
structure Balanced (tally : Tally) : Prop where
  spans : tally.spans = tally.bitmapDraws + tally.textDraws
  bitmaps : tally.bitmapDraws ≤ tally.asked
  asked : tally.asked + tally.bypasses ≤ tally.spans

/-- The painter between two runs of a row. -/
structure Ready (wx : WxToolkit) (cellWidth cellHeight : Int) (ppi : Int × Int)
    (painter : Painter) : Prop where
  holds : Holds wx cellWidth cellHeight ppi painter
  balanced : Balanced (tally painter.counters painter.caches)
  pen : painter.dc.pen = .transparent

/-- A text as `Renderer.drawnGlyph` has it. -/
def shownGlyph (run : RunView) (glyph : List Nat) : GlyphRun where
  left := run.left
  cellCount := run.cellCount
  glyph := glyph
  font := run.attributes &&& 0x07
  foreground := run.foreground

section parts

variable {wx : WxToolkit} {config : RenderConfig} {frame : PackedFrame} {info : RenderInfo}
  {cellWidth cellHeight : Int} {ppi : Int × Int} {painter : Painter} {clip : DirtyRegion}
  {row : Nat} {run : RunView}

/-- Colour and font are set first, so the text shows what it would show on any context. -/
theorem Holds.drawTextWith (h : Holds wx cellWidth cellHeight ppi painter) (row : Nat)
    (run : RunView) (glyph : List Nat) :
    ∃ painter', drawTextWith row painter run glyph = some painter' ∧
      Holds wx cellWidth cellHeight ppi painter' ∧ painter'.dc.pen = painter.dc.pen ∧
      painter'.dc.picture =
        Renderer.drawText painter.dc.picture row run (shownGlyph run glyph) ∧
      tally painter'.counters painter'.caches =
        { tally painter.counters painter.caches with
          textDraws := painter.counters.glyphTextDraws + 1 } := by
  obtain ⟨hcolour, hcoloured⟩ := h.colorResourcesFor run.foreground
  have hset : Holds wx cellWidth cellHeight ppi
      ((painter.colorResourcesFor run.foreground).2.setTextForeground
        (painter.colorResourcesFor run.foreground).1.color) :=
    hcoloured.changeState h.ppi
  obtain ⟨hfont, hholds, hdc, hcounters, hglyphs⟩ := hset.glyphFont run.attributes
  have hpen := congrArg DeviceContext.pen hdc
  have hpicture := congrArg DeviceContext.picture hdc
  have hforeground := congrArg DeviceContext.textForeground hdc
  refine ⟨_, rfl, ?_, hpen, ?_, ?_⟩
  · exact ⟨hholds.caches, hholds.cellWidth, hholds.cellHeight, hholds.ppi⟩
  · change Renderer.drawText (Painter.glyphFont _ _).2.dc.picture row run
      { left := run.left
        cellCount := run.cellCount
        glyph := glyph
        font := (Painter.glyphFont _ _).1.attributes
        foreground := (Painter.glyphFont _ _).2.dc.textForeground } = _
    rw [hpicture, hforeground, hfont, attributes_fontFor, hcolour]
    rfl
  · change Tally.mk (Painter.glyphFont _ _).2.counters.glyphRunSpans
      (Painter.glyphFont _ _).2.counters.glyphBitmapDraws
      ((Painter.glyphFont _ _).2.counters.glyphTextDraws + 1)
      (Painter.glyphFont _ _).2.counters.glyphRunCacheBypasses
      (asked (Painter.glyphFont _ _).2.caches.glyphs) = _
    rw [hcounters, hglyphs]
    rfl

/-- A span was counted that is not drawn yet. -/
structure SpanBegun (tally : Tally) : Prop where
  spans : tally.spans = tally.bitmapDraws + tally.textDraws + 1
  bitmaps : tally.bitmapDraws ≤ tally.asked
  asked : tally.asked + tally.bypasses + 1 ≤ tally.spans

/-- The three ways in which a run is drawn: as a bitmap, as a text because its bitmap is not valid,
and as a text past the cache. -/
theorem Holds.drawGlyphRun (h : Holds wx cellWidth cellHeight ppi painter)
    (htally : SpanBegun (tally painter.counters painter.caches)) (row : Nat) (run : RunView) :
    ∃ painter',
      drawGlyphRun wx config info row painter run (decodeText wx run.text) = some painter' ∧
      Holds wx cellWidth cellHeight ppi painter' ∧ painter'.dc.pen = painter.dc.pen ∧
      painter'.dc.picture =
        Renderer.drawGlyphRun (uncached wx cellWidth cellHeight ppi) config info row
          painter.dc.picture run (shownGlyph run (decodeText wx run.text)) ∧
      Balanced (tally painter'.counters painter'.caches) := by
  obtain ⟨hspans, hbitmaps, hasked⟩ := htally
  simp only [tally] at hspans hbitmaps hasked
  unfold Painter.drawGlyphRun Renderer.drawGlyphRun
  by_cases hcache : cacheGlyphs config info = true
  · rw [if_pos hcache, if_pos hcache]
    obtain ⟨asking, hbitmap, hholds, hpicture, hpen, hcount⟩ := h.glyphRunBitmap run
    simp only [hbitmap]
    by_cases hok : (uncachedBitmap wx cellWidth cellHeight ppi run).isOk = true
    · rw [if_pos hok, if_pos (show (uncached wx cellWidth cellHeight ppi).bitmapIsOk run = true from
        hok), Painter.drawBitmap, if_pos hok]
      refine ⟨_, rfl, ?_, hpen, ?_, ?_⟩
      · exact ⟨hholds.caches, hholds.cellWidth, hholds.cellHeight, hholds.ppi⟩
      · change Renderer.drawBitmap asking.dc.picture row run
          { left := run.left
            cellCount := run.cellCount
            glyph := decodeText wx run.text
            font := (fontFor run.attributes).attributes
            foreground := run.foreground } = _
        rw [hpicture, attributes_fontFor]
        rfl
      · simp only [tally, Tally.mk.injEq] at hcount
        obtain ⟨hspans', hbitmaps', htexts', hbypasses', hasked'⟩ := hcount
        constructor
        case spans =>
          change asking.counters.glyphRunSpans = asking.counters.glyphBitmapDraws + 1 +
            asking.counters.glyphTextDraws
          omega
        case bitmaps =>
          change asking.counters.glyphBitmapDraws + 1 ≤ Painter.asked asking.caches.glyphs
          omega
        case asked =>
          change Painter.asked asking.caches.glyphs + asking.counters.glyphRunCacheBypasses ≤
            asking.counters.glyphRunSpans
          omega
    · rw [if_neg hok, if_neg (show ¬ (uncached wx cellWidth cellHeight ppi).bitmapIsOk run = true
        from hok)]
      obtain ⟨drawn, hdrawn, hholds', hpen', hpicture', hcount'⟩ :=
        hholds.drawTextWith row run (decodeText wx run.text)
      refine ⟨drawn, hdrawn, hholds', hpen'.trans hpen, by rw [hpicture', hpicture], ?_⟩
      simp only [tally, Tally.mk.injEq] at hcount hcount'
      obtain ⟨hspans', hbitmaps', htexts', hbypasses', hasked'⟩ := hcount
      constructor
      all_goals
        simp only [tally, hcount', hspans', hbitmaps', htexts', hbypasses', hasked']
        omega
  · rw [if_neg hcache, if_neg hcache]
    have hbypass : Holds wx cellWidth cellHeight ppi (painter.countBypass config info) :=
      ⟨h.caches, h.cellWidth, h.cellHeight, h.ppi⟩
    obtain ⟨drawn, hdrawn, hholds, hpen, hpicture, hcount⟩ :=
      hbypass.drawTextWith row run (decodeText wx run.text)
    refine ⟨drawn, hdrawn, hholds, hpen, hpicture, ?_⟩
    -- the bypass is counted once at most
    have hone : (painter.countBypass config info).counters.glyphRunCacheBypasses ≤
        painter.counters.glyphRunCacheBypasses + 1 := by
      refine Nat.add_le_add_left ?_ _
      split
      · exact Nat.le_refl 1
      · exact Nat.zero_le 1
    simp only [tally, Tally.mk.injEq] at hcount
    obtain ⟨hspans', hbitmaps', htexts', hbypasses', hasked'⟩ := hcount
    change drawn.counters.glyphRunSpans = painter.counters.glyphRunSpans at hspans'
    change drawn.counters.glyphBitmapDraws = painter.counters.glyphBitmapDraws at hbitmaps'
    change drawn.counters.glyphTextDraws = painter.counters.glyphTextDraws + 1 at htexts'
    change Painter.asked drawn.caches.glyphs = Painter.asked painter.caches.glyphs at hasked'
    constructor
    all_goals
      simp only [tally, hspans', hbitmaps', htexts', hbypasses', hasked']
      omega

/-- A painter between two runs, and what its context shows. -/
def painting (wx : WxToolkit) (cellWidth cellHeight : Int) (ppi : Int × Int) :
    Showing Painter (Picture PaintedCell) where
  inv := Ready wx cellWidth cellHeight ppi
  view painter := painter.dc.picture

theorem drawnGlyph_uncached (run : RunView) :
    drawnGlyph (uncached wx cellWidth cellHeight ppi) run =
      if run.text.isEmpty || run.text.all (· == 0x20) then none
      else if (decodeText wx run.text).isEmpty then none
      else some (shownGlyph run (decodeText wx run.text)) := rfl

/-- Blank runs draw nothing on either side. -/
theorem drawTextRun_computes (row : Nat) (run : RunView) :
    Computes (painting wx cellWidth cellHeight ppi) (painting wx cellWidth cellHeight ppi)
      (fun painter => drawTextRun wx config info row painter run)
      (fun picture => Renderer.drawTextRun (uncached wx cellWidth cellHeight ppi) config info row
        picture run) := by
  intro painter h
  obtain ⟨hspans, hbitmaps, hasked⟩ := h.balanced
  simp only [drawTextRun, Renderer.drawTextRun, drawnGlyph_uncached]
  by_cases hblank : (run.text.isEmpty || run.text.all (· == 0x20)) = true
  · rw [if_pos hblank, if_pos hblank]
    exact ⟨painter, rfl, h, rfl⟩
  · obtain ⟨htext, hholds⟩ := h.holds.glyphText run.text
    rw [if_neg hblank, if_neg hblank, htext]
    by_cases hempty : (decodeText wx run.text).isEmpty = true
    · rw [if_pos hempty, if_pos hempty]
      exact ⟨_, rfl, ⟨hholds, h.balanced, h.pen⟩, rfl⟩
    · rw [if_neg hempty, if_neg hempty]
      have hbegun : Holds wx cellWidth cellHeight ppi
          { (painter.glyphText wx run.text).2 with
            counters :=
              { painter.counters with glyphRunSpans := painter.counters.glyphRunSpans + 1 } } :=
        ⟨hholds.caches, hholds.cellWidth, hholds.cellHeight, hholds.ppi⟩
      have hspan : SpanBegun (tally
          { painter.counters with glyphRunSpans := painter.counters.glyphRunSpans + 1 }
          (painter.glyphText wx run.text).2.caches) :=
        ⟨congrArg (· + 1) hspans, hbitmaps, Nat.add_le_add_right hasked 1⟩
      obtain ⟨drawn, hdrawn, hholds', hpen, hpicture, hbalanced⟩ :=
        hbegun.drawGlyphRun hspan row run
      exact ⟨drawn, hdrawn, ⟨hholds', hbalanced, hpen.trans h.pen⟩, hpicture⟩

/-- The pen is set for the stroke and reset behind it. -/
theorem underlineRun_computes (clip : DirtyRegion) (row : Nat) (run : RunView) :
    Computes (painting wx cellWidth cellHeight ppi) (painting wx cellWidth cellHeight ppi)
      (fun painter => underlineRun info clip row painter run)
      (fun picture =>
        if underlined run then
          Renderer.drawUnderline picture row (drawLeft clip run) (drawRight info clip run)
            run.foreground
        else picture) := by
  unfold underlineRun
  apply Computes.ite
  · intro _ painter h
    obtain ⟨hcolour, hholds⟩ := h.holds.colorResourcesFor run.foreground
    simp only [hcolour]
    refine ⟨_, rfl, ⟨?_, h.balanced, rfl⟩, rfl⟩
    exact ⟨hholds.caches, hholds.cellWidth, hholds.cellHeight, hholds.ppi⟩
  · exact fun _ => Computes.of_eq fun painter h => ⟨h, rfl⟩

theorem renderRun_computes (clip : DirtyRegion) (row : Nat) (run : RunView) :
    Computes (painting wx cellWidth cellHeight ppi) (painting wx cellWidth cellHeight ppi)
      (fun painter => renderRun wx config info clip row painter run)
      (fun picture => Renderer.renderRun (uncached wx cellWidth cellHeight ppi) config info clip
        row picture run) := by
  unfold renderRun Renderer.renderRun
  apply Computes.ite
  · exact fun _ => Computes.of_eq fun painter h => ⟨h, rfl⟩
  · exact fun _ => (drawTextRun_computes row run).bind (underlineRun_computes clip row run)

/-! ### Backgrounds -/

/-- A painter in the loop over the backgrounds. -/
def waiting (wx : WxToolkit) (cellWidth cellHeight : Int) (ppi : Int × Int) :
    Showing BackgroundPainting BackgroundPass where
  inv pass := Ready wx cellWidth cellHeight ppi pass.painter
  view pass := { picture := pass.painter.dc.picture, pending := pass.pending }

theorem flushBackground_computes (row : Nat) :
    Computes (waiting wx cellWidth cellHeight ppi) (waiting wx cellWidth cellHeight ppi)
      (flushBackground row) (Renderer.flushBackground row) := by
  rintro ⟨painter, _ | pending⟩ h
  · exact ⟨_, rfl, h, rfl⟩
  · obtain ⟨hcolour, hholds⟩ := h.holds.colorResourcesFor pending.colour
    have hpen : painter.dc.pen = .transparent := h.pen
    simp only [flushBackground, Painter.drawRectangle, setBrush, changeState, hcolour,
      newColorResources, colorResourcesFor_dc, hpen]
    refine ⟨_, rfl, ⟨?_, h.balanced, rfl⟩, rfl⟩
    exact ⟨hholds.caches, hholds.cellWidth, hholds.cellHeight, hholds.ppi⟩

/-- One turn of the loop: the background joins the one that waits, or takes its place. -/
theorem renderBackground_computes (clip : DirtyRegion) (row : Nat) (run : RunView) :
    Computes (waiting wx cellWidth cellHeight ppi) (waiting wx cellWidth cellHeight ppi)
      (fun pass => renderBackground config info clip row pass run)
      (fun pass => Renderer.renderBackground config info clip row pass run) := by
  rintro ⟨painter, pending⟩ h
  obtain ⟨flushed, hflushed, hready, hview⟩ := flushBackground_computes row ⟨painter, pending⟩ h
  simp only [renderBackground, Renderer.renderBackground, backgroundOf]
  by_cases hempty : drawLeft clip run ≥ drawRight info clip run
  · rw [dif_pos hempty, dif_pos hempty]
    exact ⟨_, rfl, h, rfl⟩
  · rw [dif_neg hempty, dif_neg hempty]
    by_cases hdefault : colorKey run.background = colorKey config.themeBackground
    · rw [if_pos hdefault, if_pos hdefault]
      exact ⟨flushed, hflushed, hready, hview⟩
    · rw [if_neg hdefault, if_neg hdefault]
      cases pending with
      | none => exact ⟨_, rfl, h, rfl⟩
      | some pending =>
        simp only [waiting]
        by_cases hsame : pending.key = colorKey run.background ∧
            pending.right = drawLeft clip run
        · refine ⟨_, dif_pos hsame, h, ?_⟩
          rw [dif_pos hsame]
        · refine ⟨_, (dif_neg hsame).trans (congrArg (Option.map _) hflushed), hready, ?_⟩
          rw [dif_neg hsame]
          have hpicture := congrArg BackgroundPass.picture hview
          exact congrArg (BackgroundPass.mk · (some _)) hpicture

/-- The loop, and the background that waits at its end. -/
theorem renderBackgrounds_computes (clip : DirtyRegion) (row : Nat) (runs : List RunView) :
    Computes (painting wx cellWidth cellHeight ppi) (painting wx cellWidth cellHeight ppi)
      (fun painter => renderBackgrounds config info clip row runs painter)
      (fun picture => Renderer.renderBackgrounds config info clip row runs picture) := by
  intro painter h
  have hpasses : Computes (waiting wx cellWidth cellHeight ppi)
      (waiting wx cellWidth cellHeight ppi)
      (fun pass => runs.foldlM (renderBackground config info clip row) pass)
      (fun pass => runs.foldl (Renderer.renderBackground config info clip row) pass) :=
    Computes.foldlM fun run _ => renderBackground_computes clip row run
  obtain ⟨pass, hpass, hready, hview⟩ :=
    hpasses.bind (flushBackground_computes row) ⟨painter, none⟩ h
  refine ⟨pass.painter, ?_, hready, congrArg BackgroundPass.picture hview⟩
  exact congrArg (Option.map BackgroundPainting.painter) hpass

theorem renderRow_computes (clip : DirtyRegion) (row : Nat) :
    Computes (painting wx cellWidth cellHeight ppi) (painting wx cellWidth cellHeight ppi)
      (fun painter => renderRow wx config frame info clip painter row)
      (fun picture => Renderer.renderRow (uncached wx cellWidth cellHeight ppi) config frame info
        clip picture row) :=
  (renderBackgrounds_computes clip row (rowRuns config frame info row)).bind
    (Computes.foldlM fun run _ => renderRun_computes clip row run)

/-! ### The frame -/

/-- A painter before and after a frame, with any pen. -/
def resting (wx : WxToolkit) (cellWidth cellHeight : Int) (ppi : Int × Int) :
    Showing Painter (Picture PaintedCell) where
  inv painter := Holds wx cellWidth cellHeight ppi painter ∧
    Balanced (tally painter.counters painter.caches)
  view painter := painter.dc.picture

/-- The cursor sets what it needs itself, in each of its styles. -/
theorem renderCursor_computes (clip : DirtyRegion) :
    Computes (painting wx cellWidth cellHeight ppi) (resting wx cellWidth cellHeight ppi)
      (fun painter => renderCursor info clip painter)
      (fun picture => Renderer.renderCursor info clip picture) := by
  unfold renderCursor Renderer.renderCursor
  apply Computes.ite
  · intro _ painter h
    have hholds : Holds wx cellWidth cellHeight ppi
        ((painter.setBrush .transparent).setPen (.solid cursorColour)) :=
      (h.holds.changeState h.holds.ppi).changeState h.holds.ppi
    cases info.cursorStyle with
    | block =>
      simp only [Painter.drawRectangle, setPen, setBrush, changeState, and_self, if_true]
      exact ⟨_, rfl, ⟨⟨hholds.caches, hholds.cellWidth, hholds.cellHeight, hholds.ppi⟩,
        h.balanced⟩, rfl⟩
    | underline | bar =>
      simp only [Painter.drawCursorLine, setPen, changeState, if_true]
      exact ⟨_, rfl, ⟨⟨hholds.caches, hholds.cellWidth, hholds.cellHeight, hholds.ppi⟩,
        h.balanced⟩, rfl⟩
  · exact fun _ => Computes.of_eq fun painter h => ⟨⟨h.holds, h.balanced⟩, rfl⟩

/-- The pen and the brush are set before the rectangle is filled, whatever they were. -/
theorem fillFrame_computes (clip : DirtyRegion) :
    Computes (resting wx cellWidth cellHeight ppi) (painting wx cellWidth cellHeight ppi)
      (fun painter =>
        (((painter.setPen .transparent).setBrush (.solid config.themeBackground)).drawRectangle
          clip.left clip.top clip.right clip.bottom).map fun painter =>
            { painter with
              counters := { painter.counters with
                backgroundRectangles := painter.counters.backgroundRectangles + 1 } })
      (fun picture => Renderer.drawRectangle picture clip.left clip.top clip.right clip.bottom
        config.themeBackground) := by
  rintro painter ⟨hholds, hbalanced⟩
  refine ⟨_, rfl, ⟨?_, hbalanced, rfl⟩, rfl⟩
  exact ⟨hholds.caches, hholds.cellWidth, hholds.cellHeight, hholds.ppi⟩

/-- The whole of `RenderFrame`, put together from its parts. -/
theorem renderFrame_computes (dirty : DirtyRegion) :
    Computes (resting wx cellWidth cellHeight ppi) (resting wx cellWidth cellHeight ppi)
      (fun painter => renderFrame wx config frame info dirty painter)
      (fun picture => Renderer.renderFrame (uncached wx cellWidth cellHeight ppi) config frame info
        dirty picture) := by
  have hstays : Computes (resting wx cellWidth cellHeight ppi)
      (resting wx cellWidth cellHeight ppi) some id :=
    Computes.of_eq fun painter h => ⟨h, rfl⟩
  unfold renderFrame Renderer.renderFrame
  apply Computes.ite
  · exact fun _ => hstays
  · intro _
    apply Computes.ite
    · exact fun _ => hstays
    · intro _
      have hrow : ∀ row, Computes (painting wx cellWidth cellHeight ppi)
          (painting wx cellWidth cellHeight ppi)
          (fun painter => renderRow wx config frame info (clipDirty info dirty) painter row)
          (fun picture => Renderer.renderRow (uncached wx cellWidth cellHeight ppi) config frame
            info (clipDirty info dirty) picture row) :=
        renderRow_computes (clipDirty info dirty)
      exact ((fillFrame_computes (clipDirty info dirty)).bind
        (Computes.foldlM fun row _ => hrow row)).bind (renderCursor_computes (clipDirty info dirty))

end parts

end Painter

/-! ## Runs -/

/-- A renderer between two frames. The device context belongs to a frame and is not kept. -/
structure RenderState where
  caches : RenderCaches
  counters : RenderCounters := {}

def RenderState.painter (state : RenderState) (dc : DeviceContext) : Painter :=
  ⟨dc, state.caches, state.counters⟩

/-- `UpdateGeometry`, as far as the caches depend on it. -/
def RenderCaches.updateGeometry (caches : RenderCaches) (cellWidth cellHeight : Int) :
    RenderCaches :=
  let glyphs := updateCellSize caches.glyphs cellWidth cellHeight
  { caches with
    glyphs := glyphs
    glyphFonts :=
      if caches.glyphs.cellWidth ≠ glyphs.cellWidth ∨ caches.glyphs.cellHeight ≠ glyphs.cellHeight
      then fun _ => none else caches.glyphFonts }

/-- A frame is drawn on any context, whatever it shows. -/
inductive RenderOp where
  | renderFrame (frame : PackedFrame) (info : RenderInfo) (dirty : DirtyRegion)
      (dc : DeviceContext)
  | updateGeometry (cellWidth cellHeight : Int)

/-- All runs of a renderer, with any limits. -/
def renderSystem (wx : WxToolkit) (config : RenderConfig) :
    TransitionSystem RenderState RenderOp where
  init state := ∃ limits identity, state =
    { caches := { glyphs :=
      { config := limits, glyphFontIdentity := identity, cellWidth := 8, cellHeight := 16 } } }
  step state op state' :=
    match op with
    | .renderFrame frame info dirty dc =>
      (Painter.renderFrame wx config frame info dirty (state.painter dc)).map
        (fun painter => RenderState.mk painter.caches painter.counters) = some state'
    | .updateGeometry cellWidth cellHeight =>
      state' = { state with caches := state.caches.updateGeometry cellWidth cellHeight }

/-- What a run keeps. It is the invariant of a run, which every frame and every change of the cell
size keeps. -/
structure RenderState.Sound (wx : WxToolkit) (state : RenderState) : Prop where
  caches : Painter.CachesHold wx state.caches
  balanced : Painter.Balanced (Painter.tally state.counters state.caches)

section run

variable {wx : WxToolkit} {config : RenderConfig} {state state' : RenderState}

/-- The caches of a new renderer are empty. -/
theorem sound_init (limits : GlyphCacheConfig) (identity : UInt64) :
    RenderState.Sound wx { caches := { glyphs := {
      config := limits
      glyphFontIdentity := identity
      cellWidth := 8
      cellHeight := 16 } } } where
  caches :=
    { colours := remembers_empty
      fonts := nofun
      texts := remembers_empty
      glyphs := by
        intro key entry h
        rw [AList.lookup_empty] at h
        cases h }
  balanced := ⟨rfl, Nat.le_refl 0, Nat.le_refl 0⟩

/-- A frame is drawn as without caches, on any context. -/
theorem RenderState.Sound.renderFrame (h : state.Sound wx) (config : RenderConfig)
    (frame : PackedFrame) (info : RenderInfo) (dirty : DirtyRegion) (dc : DeviceContext) :
    ∃ painter, Painter.renderFrame wx config frame info dirty (state.painter dc) = some painter ∧
      RenderState.Sound wx ⟨painter.caches, painter.counters⟩ ∧
      painter.dc.picture =
        Renderer.renderFrame (Painter.uncached wx state.caches.glyphs.cellWidth
          state.caches.glyphs.cellHeight dc.ppi) config frame info dirty dc.picture := by
  have hholds : Painter.Holds wx state.caches.glyphs.cellWidth state.caches.glyphs.cellHeight
      dc.ppi (state.painter dc) := ⟨h.caches, rfl, rfl, rfl⟩
  obtain ⟨painter, hpainter, ⟨hholds', hbalanced⟩, hpicture⟩ :=
    Painter.renderFrame_computes dirty (state.painter dc) ⟨hholds, h.balanced⟩
  exact ⟨painter, hpainter, ⟨hholds'.caches, hbalanced⟩, hpicture⟩

/-- A change of the cell size takes bitmaps and fonts out of the caches. -/
theorem RenderState.Sound.updateGeometry (h : state.Sound wx) (cellWidth cellHeight : Int) :
    RenderState.Sound wx
      { state with caches := state.caches.updateGeometry cellWidth cellHeight } where
  caches :=
    { colours := h.caches.colours
      fonts := by
        intro index font hfont
        simp only [RenderCaches.updateGeometry] at hfont
        split at hfont
        · cases hfont
        · exact h.caches.fonts index font hfont
      texts := h.caches.texts
      glyphs := by
        intro key entry hentry
        simp only [RenderCaches.updateGeometry, updateCellSize] at hentry
        split at hentry
        · cases hentry
        · exact h.caches.glyphs key entry hentry }
  balanced := by
    have hasked : Painter.asked (updateCellSize state.caches.glyphs cellWidth cellHeight) =
        Painter.asked state.caches.glyphs := by
      simp only [updateCellSize]
      split <;> rfl
    have hbalanced := h.balanced
    simp only [Painter.tally, RenderCaches.updateGeometry, hasked] at hbalanced ⊢
    exact hbalanced

/-- The caches hold in every run. -/
theorem sound_of_reachable (h : (renderSystem wx config).Reachable (fun _ _ => True) state) :
    state.Sound wx := by
  apply h.invariant
  · rintro _ ⟨limits, identity, rfl⟩
    exact sound_init limits identity
  · intro state op state' _ ih _ hstep
    cases op with
    | renderFrame frame info dirty dc =>
      obtain ⟨painter, hpainter, hsound, -⟩ := ih.renderFrame config frame info dirty dc
      simp only [renderSystem, hpainter, Option.map_some, Option.some.injEq] at hstep
      rw [← hstep]
      exact hsound
    | updateGeometry cellWidth cellHeight =>
      rw [hstep]
      exact ih.updateGeometry cellWidth cellHeight

/-- The state after a frame. -/
theorem reachable_renderFrame (h : (renderSystem wx config).Reachable (fun _ _ => True) state)
    {frame : PackedFrame} {info : RenderInfo} {dirty : DirtyRegion} {dc : DeviceContext}
    {painter : Painter}
    (hpainter : Painter.renderFrame wx config frame info dirty (state.painter dc) =
      some painter) :
    (renderSystem wx config).Reachable (fun _ _ => True) ⟨painter.caches, painter.counters⟩ := by
  apply TransitionSystem.Reachable.step (a := .renderFrame frame info dirty dc) h trivial
  simp only [renderSystem, hpainter, Option.map_some]

/-- After any run `RenderFrame` draws what it would draw without caches. -/
theorem renderFrame_cached (h : (renderSystem wx config).Reachable (fun _ _ => True) state)
    (frame : PackedFrame) (info : RenderInfo) (dirty : DirtyRegion) (dc : DeviceContext) :
    ∃ painter, Painter.renderFrame wx config frame info dirty (state.painter dc) = some painter ∧
      painter.dc.picture =
        Renderer.renderFrame (Painter.uncached wx state.caches.glyphs.cellWidth
          state.caches.glyphs.cellHeight dc.ppi) config frame info dirty dc.picture := by
  obtain ⟨painter, hpainter, -, hpicture⟩ :=
    (sound_of_reachable h).renderFrame config frame info dirty dc
  exact ⟨painter, hpainter, hpicture⟩

/-- ASCII in cells of one pixel a character, and bitmaps that are always valid. -/
def asciiWx : WxToolkit where
  fromUtf8 := fun text => text.map UInt8.toNat
  textExtent := fun _ _ text => (text.length, 1)
  bitmapIsOk := fun _ _ => true
  bitmapDepth := 32

/-- A context that was used before. -/
def usedContext (picture : Picture PaintedCell) : DeviceContext where
  pen := .solid {}
  brush := .transparent
  textForeground := {}
  font := none
  ppi := (96, 96)
  picture := picture

/-- The state of a new renderer with room for 16 bitmaps. -/
def newRenderer : RenderState where
  caches := { glyphs :=
    { config := ⟨16, 65536⟩, glyphFontIdentity := 0, cellWidth := 8, cellHeight := 16 } }

/-- The second time the bitmap of the run comes out of the cache. -/
theorem renderFrame_cached_twice : ∃ first second : Painter,
    Painter.renderFrame asciiWx {} pairFrame (renderInfo pairFrame 0) ⟨0, 0, 2, 1⟩
        (newRenderer.painter (usedContext pairPicture)) = some first ∧
      Painter.renderFrame asciiWx {} pairFrame (renderInfo pairFrame 0) ⟨0, 0, 2, 1⟩
        ((RenderState.mk first.caches first.counters).painter (usedContext pairPicture)) =
          some second ∧
      second.dc.picture = Renderer.renderFrame (Painter.uncached asciiWx
          first.caches.glyphs.cellWidth first.caches.glyphs.cellHeight (96, 96)) {} pairFrame
        (renderInfo pairFrame 0) ⟨0, 0, 2, 1⟩ pairPicture := by
  have hinit : (renderSystem asciiWx {}).Reachable (fun _ _ => True) newRenderer :=
    .init ⟨⟨16, 65536⟩, 0, rfl⟩
  obtain ⟨first, hfirst, -⟩ := renderFrame_cached hinit pairFrame (renderInfo pairFrame 0)
    ⟨0, 0, 2, 1⟩ (usedContext pairPicture)
  obtain ⟨second, hsecond, hpicture⟩ := renderFrame_cached (reachable_renderFrame hinit hfirst)
    pairFrame (renderInfo pairFrame 0) ⟨0, 0, 2, 1⟩ (usedContext pairPicture)
  exact ⟨first, second, hfirst, hsecond, hpicture⟩

/-- In every run the counters agree with each other, and the maps keep their limit. -/
theorem renderCounters_agree (h : (renderSystem wx config).Reachable (fun _ _ => True) state) :
    state.counters.glyphRunSpans =
        state.counters.glyphBitmapDraws + state.counters.glyphTextDraws ∧
      state.counters.glyphBitmapDraws ≤
        state.caches.glyphs.metrics.hits + state.caches.glyphs.metrics.misses ∧
      state.caches.glyphs.metrics.hits + state.caches.glyphs.metrics.misses +
        state.counters.glyphRunCacheBypasses ≤ state.counters.glyphRunSpans ∧
      state.caches.colorResources.keys.length ≤ 4096 ∧
      state.caches.glyphTexts.keys.length ≤ 4096 := by
  obtain ⟨hcaches, hspans, hbitmaps, hasked⟩ := sound_of_reachable h
  exact ⟨hspans, hbitmaps, hasked, hcaches.colours.bounded, hcaches.texts.bounded⟩

/-- After the first frame of a renderer. -/
theorem renderCounters_agree_first : ∃ painter : Painter,
    Painter.renderFrame asciiWx {} pairFrame (renderInfo pairFrame 0) ⟨0, 0, 2, 1⟩
        (newRenderer.painter (usedContext pairPicture)) = some painter ∧
      painter.counters.glyphRunSpans =
        painter.counters.glyphBitmapDraws + painter.counters.glyphTextDraws := by
  have hinit : (renderSystem asciiWx {}).Reachable (fun _ _ => True) newRenderer :=
    .init ⟨⟨16, 65536⟩, 0, rfl⟩
  obtain ⟨painter, hpainter, -⟩ := (sound_of_reachable hinit).renderFrame {} pairFrame
    (renderInfo pairFrame 0) ⟨0, 0, 2, 1⟩ (usedContext pairPicture)
  exact ⟨painter, hpainter, (renderCounters_agree (reachable_renderFrame hinit hpainter)).1⟩

end run

end SakuraTerminal.Wx.Renderer
