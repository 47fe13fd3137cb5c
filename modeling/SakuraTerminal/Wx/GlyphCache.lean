import SakuraTerminal.Core.PackedGrid
import SakuraTerminal.Foundations.LruCache
import SakuraTerminal.Foundations.TransitionSystem
import Mathlib.Data.List.AList
import Mathlib.Algebra.GroupWithZero.Nat

/-!
# The glyph bitmap cache

`GlyphRunBitmap`, `ClearGlyphRunCache` and `EvictLeastRecentlyUsedGlyphRun` of
`src/wx/terminal_renderer.cpp`: a hash map of bitmaps, a list of its keys with the one used last at
the front, and a counter of bytes. Every entry of the map holds an iterator into the list. The three
together represent one cache of `Foundations.LruCache` (`Represents`), and each operation does what
the operation of that cache does; what is known of bounded caches then holds of the renderer's in
every run (`glyphCache_correct`).

A list node has an id, which is what an iterator keeps while the node moves. Sizes are `size_t`.
What wxWidgets makes of a request (the measured text, the drawn bitmap and whether it is valid) is
part of the request.

The source keeps one cache in three containers that have to agree, and the proofs are about the
agreement. Once `Represents` holds, an operation is described by what it does to a list of items,
and the properties of bounded caches (order of use, limits, what is evicted) are lemmas of the
library about such lists. The byte counter is an unsigned number of 64 bits, so its lemma has to
show that no subtraction of an eviction passes 0.
-/

set_option autoImplicit false

namespace SakuraTerminal.Wx

open SakuraTerminal.Core SakuraTerminal.Foundations SakuraTerminal.Foundations.LruCache

/-- A bitmap of wxWidgets. -/
structure WxBitmap (Pixels : Type) where
  isOk : Bool
  width : Int
  height : Int
  depth : Int
  pixels : Pixels

/-- The key of the map: all that the bitmap of a run depends on. -/
structure GlyphRunKey where
  text : List UInt8
  foreground : UInt32
  background : UInt32
  fontIdentity : UInt64
  cellCount : UInt32
  attributes : UInt8
  cellWidth : Int
  cellHeight : Int
  dpiX : Int
  dpiY : Int
  deriving DecidableEq, Repr

/-- What an entry stores of a run. -/
structure GlyphRunResource (Pixels : Type) where
  bitmap : WxBitmap Pixels
  measuredSize : Int × Int

/-- An entry of the map; `lru` is the id of its node in the list. -/
structure GlyphRunCacheEntry (Pixels : Type) where
  resource : GlyphRunResource Pixels
  bytes : UInt64
  lru : Nat

/-- A node of `glyph_run_lru_`. The key is stored in the node as well, because the last node names
the entry to evict. -/
structure LruNode where
  id : Nat
  key : GlyphRunKey
  deriving DecidableEq, Repr

/-- `glyph_cache_max_entries` and `glyph_cache_max_bytes`. A limit of 0 turns the cache off. -/
structure GlyphCacheConfig where
  maxEntries : UInt64
  maxBytes : UInt64

/-- The counters of `WxPaintMetrics` for the cache. -/
structure GlyphCacheMetrics where
  hits : Nat := 0
  misses : Nat := 0
  evictions : Nat := 0
  entries : Nat := 0
  bytes : UInt64 := 0
  peakBytes : UInt64 := 0

/-- The members of `WxRenderer::Impl` that the cache uses. `nextNode` is the id of the next list
node. -/
structure GlyphCache (Pixels : Type) where
  config : GlyphCacheConfig
  glyphFontIdentity : UInt64
  cellWidth : Int := 0
  cellHeight : Int := 0
  glyphRuns : AList (fun _ : GlyphRunKey => GlyphRunCacheEntry Pixels) := ∅
  glyphRunLru : List LruNode := []
  nextNode : Nat := 0
  glyphRunCacheBytes : UInt64 := 0
  glyphBitmapScratch : Option (WxBitmap Pixels) := none
  metrics : GlyphCacheMetrics := {}

/-- The arguments of `GlyphRunBitmap` with what wxWidgets answers: the extent of the text, and the
bitmap of a width and a height with the text drawn on it. -/
structure GlyphRunRequest (Pixels : Type) where
  text : List UInt8
  cellCount : UInt32
  attributes : UInt8
  foreground : Rgb
  background : Rgb
  ppi : Int × Int
  measuredSize : Int × Int
  drawnBitmap : Int → Int → WxBitmap Pixels

/-! ## The source -/

/-- `ColorKey`. -/
def colorKey (color : Rgb) : UInt32 :=
  (color.red.toUInt32 <<< 16) ||| (color.green.toUInt32 <<< 8) ||| color.blue.toUInt32

/-- The key is the number whose digits to base 256 are the channels. -/
theorem colorKey_toNat (color : Rgb) :
    (colorKey color).toNat =
      color.red.toNat * 2 ^ 16 + color.green.toNat * 2 ^ 8 + color.blue.toNat := by
  have hred := color.red.toNat_lt
  have hgreen := color.green.toNat_lt
  have hblue := color.blue.toNat_lt
  have hlow : color.green.toNat <<< 8 ||| color.blue.toNat =
      color.green.toNat * 2 ^ 8 + color.blue.toNat := by
    rw [← Nat.shiftLeft_add_eq_or_of_lt hblue, Nat.shiftLeft_eq]
  have hhigh : color.red.toNat <<< 16 ||| (color.green.toNat * 2 ^ 8 + color.blue.toNat) =
      color.red.toNat * 2 ^ 16 + (color.green.toNat * 2 ^ 8 + color.blue.toNat) := by
    rw [← Nat.shiftLeft_add_eq_or_of_lt (by omega), Nat.shiftLeft_eq]
  have hredShift : (color.red.toUInt32 <<< 16).toNat = color.red.toNat <<< 16 := by
    rw [UInt32.toNat_shiftLeft]
    exact Nat.mod_eq_of_lt (by rw [Nat.shiftLeft_eq]; change color.red.toNat * 2 ^ 16 < _; omega)
  have hgreenShift : (color.green.toUInt32 <<< 8).toNat = color.green.toNat <<< 8 := by
    rw [UInt32.toNat_shiftLeft]
    exact Nat.mod_eq_of_lt (by rw [Nat.shiftLeft_eq]; change color.green.toNat * 2 ^ 8 < _; omega)
  rw [colorKey, UInt32.toNat_or, UInt32.toNat_or, hredShift, hgreenShift, UInt8.toNat_toUInt32,
    Nat.or_assoc, hlow, hhigh, Nat.add_assoc]

/-- Different colours have different keys. -/
theorem colorKey_injective : Function.Injective colorKey := by
  intro color other h
  have hkey := congrArg UInt32.toNat h
  rw [colorKey_toNat, colorKey_toNat] at hkey
  have := color.green.toNat_lt
  have := color.blue.toNat_lt
  have := other.green.toNat_lt
  have := other.blue.toNat_lt
  obtain ⟨red, green, blue⟩ := color
  obtain ⟨otherRed, otherGreen, otherBlue⟩ := other
  dsimp only at *
  rw [Rgb.mk.injEq, ← UInt8.toNat_inj, ← UInt8.toNat_inj, ← UInt8.toNat_inj]
  omega

section source

variable {Pixels : Type}

/-- `BitmapBytes`. -/
def bitmapBytes (bitmap : WxBitmap Pixels) : UInt64 :=
  if !bitmap.isOk then 0
  else
    let width := UInt64.ofNat (max 0 bitmap.width).toNat
    let height := UInt64.ofNat (max 0 bitmap.height).toNat
    let depth := UInt64.ofNat (max 1 bitmap.depth).toNat
    width * height * ((depth + 7) / 8)

/-- `UpdateGlyphCacheMetrics`. -/
def updateGlyphCacheMetrics (cache : GlyphCache Pixels) : GlyphCache Pixels :=
  { cache with
    metrics := { cache.metrics with
      entries := cache.glyphRuns.keys.length
      bytes := cache.glyphRunCacheBytes } }

/-- `ClearGlyphRunCache`. -/
def clearGlyphRunCache (cache : GlyphCache Pixels) : GlyphCache Pixels :=
  updateGlyphCacheMetrics
    { cache with
      glyphRuns := ∅
      glyphRunLru := []
      glyphRunCacheBytes := 0 }

/-- `EvictLeastRecentlyUsedGlyphRun`: the last key of the list, its entry and its bytes. -/
def evictLeastRecentlyUsedGlyphRun (cache : GlyphCache Pixels) : GlyphCache Pixels :=
  match cache.glyphRunLru.getLast? with
  | none => cache
  | some lru =>
    let cache :=
      match cache.glyphRuns.lookup lru.key with
      | none => cache
      | some cached =>
        { cache with
          glyphRunCacheBytes := cache.glyphRunCacheBytes - cached.bytes
          glyphRuns := cache.glyphRuns.erase lru.key }
    updateGlyphCacheMetrics
      { cache with
        glyphRunLru := cache.glyphRunLru.dropLast
        metrics := { cache.metrics with evictions := cache.metrics.evictions + 1 } }

/-- The key of a request. -/
def glyphRunKey (cache : GlyphCache Pixels) (request : GlyphRunRequest Pixels) : GlyphRunKey where
  text := request.text
  foreground := colorKey request.foreground
  background := colorKey request.background
  fontIdentity := cache.glyphFontIdentity
  cellCount := request.cellCount
  attributes := request.attributes
  cellWidth := cache.cellWidth
  cellHeight := cache.cellHeight
  dpiX := request.ppi.1
  dpiY := request.ppi.2

/-- The bitmap a miss makes. -/
def newBitmap (cache : GlyphCache Pixels) (request : GlyphRunRequest Pixels) : WxBitmap Pixels :=
  let runWidth := request.cellCount.toNat * cache.cellWidth
  request.drawnBitmap (max 1 (max runWidth request.measuredSize.1)) (max 1 cache.cellHeight)

/-- A bitmap that is larger than the limit is drawn and not stored. -/
def cacheable (config : GlyphCacheConfig) (bitmap : WxBitmap Pixels) : Bool :=
  bitmap.isOk && decide (config.maxEntries > 0) && decide (bitmapBytes bitmap ≤ config.maxBytes)

/-- The condition of the eviction loop. -/
def overLimit (cache : GlyphCache Pixels) (bytes : UInt64) : Prop :=
  cache.glyphRunLru ≠ [] ∧ (cache.glyphRuns.keys.length ≥ cache.config.maxEntries.toNat ∨
    cache.glyphRunCacheBytes > cache.config.maxBytes - bytes)

instance (cache : GlyphCache Pixels) (bytes : UInt64) : Decidable (overLimit cache bytes) :=
  inferInstanceAs (Decidable (_ ∧ _))

theorem evict_lru (cache : GlyphCache Pixels) :
    (evictLeastRecentlyUsedGlyphRun cache).glyphRunLru = cache.glyphRunLru.dropLast := by
  unfold evictLeastRecentlyUsedGlyphRun
  cases hlast : cache.glyphRunLru.getLast? with
  | none =>
    rw [List.getLast?_eq_none_iff] at hlast
    simp [hlast]
  | some lru =>
    cases hlookup : cache.glyphRuns.lookup lru.key with
    | none => simp [hlookup, updateGlyphCacheMetrics]
    | some cached => simp [hlookup, updateGlyphCacheMetrics]

/-- The eviction loop. Every turn takes a node off the list, which is the termination argument. -/
def evictUntilFits (cache : GlyphCache Pixels) (bytes : UInt64) : GlyphCache Pixels :=
  if _h : overLimit cache bytes then
    evictUntilFits (evictLeastRecentlyUsedGlyphRun cache) bytes
  else cache
termination_by cache.glyphRunLru.length
decreasing_by
  rw [evict_lru, List.length_dropLast]
  have := List.length_pos_iff.2 _h.1
  omega

/-- `splice` to the front: the node moves and keeps its id. -/
def spliceToFront (lru : List LruNode) (id : Nat) : List LruNode :=
  match lru.find? fun node => node.id = id with
  | none => lru
  | some node => node :: lru.eraseP fun other => other.id = id

/-- The end of a miss: the bitmap gets an entry and a list node. -/
def insertGlyphRun (cache : GlyphCache Pixels) (key : GlyphRunKey)
    (resource : GlyphRunResource Pixels) (bytes : UInt64) : GlyphCache Pixels :=
  updateGlyphCacheMetrics
    { cache with
      glyphRuns := cache.glyphRuns.insert key ⟨resource, bytes, cache.nextNode⟩
      glyphRunLru := ⟨cache.nextNode, key⟩ :: cache.glyphRunLru
      nextNode := cache.nextNode + 1
      glyphRunCacheBytes := cache.glyphRunCacheBytes + bytes
      metrics := { cache.metrics with
        peakBytes := max cache.metrics.peakBytes (cache.glyphRunCacheBytes + bytes) } }

/-- `GlyphRunBitmap`: the bitmap that is returned, and the cache afterwards. -/
def glyphRunBitmap (cache : GlyphCache Pixels) (request : GlyphRunRequest Pixels) :
    WxBitmap Pixels × GlyphCache Pixels :=
  let key := glyphRunKey cache request
  match cache.glyphRuns.lookup key with
  | some existing =>
    (existing.resource.bitmap,
      { cache with
        glyphRunLru := spliceToFront cache.glyphRunLru existing.lru
        metrics := { cache.metrics with hits := cache.metrics.hits + 1 } })
  | none =>
    let cache := { cache with metrics := { cache.metrics with misses := cache.metrics.misses + 1 } }
    let bitmap := newBitmap cache request
    if cacheable cache.config bitmap then
      (bitmap, insertGlyphRun (evictUntilFits cache (bitmapBytes bitmap)) key
        ⟨bitmap, request.measuredSize⟩ (bitmapBytes bitmap))
    else (bitmap, { cache with glyphBitmapScratch := some bitmap })

/-- The cache part of `UpdateGeometry`: another cell size clears the cache. -/
def updateCellSize (cache : GlyphCache Pixels) (cellWidth cellHeight : Int) : GlyphCache Pixels :=
  let resized := { cache with cellWidth := max cellWidth 1, cellHeight := max cellHeight 1 }
  if cache.cellWidth ≠ resized.cellWidth ∨ cache.cellHeight ≠ resized.cellHeight then
    clearGlyphRunCache resized
  else resized

end source

/-! ## The cache that the members represent -/

section represents

variable {Pixels : Type} {cache : GlyphCache Pixels}

/-- An item of the cache: a key with the bitmap stored for it and the size of the bitmap. -/
abbrev GlyphRunItem (Pixels : Type) := Item GlyphRunKey (WxBitmap Pixels)

/-- The limits of the cache. -/
def GlyphCacheConfig.limits (config : GlyphCacheConfig) : Limits where
  entries := config.maxEntries.toNat
  weight := config.maxBytes.toNat

/-- The map has an entry for the item, whose iterator points at a list node with the item's key. -/
def Stores (cache : GlyphCache Pixels) (item : GlyphRunItem Pixels) : Prop :=
  ∃ entry, cache.glyphRuns.lookup item.key = some entry ∧ entry.resource.bitmap = item.value ∧
    entry.bytes.toNat = item.weight ∧ ⟨entry.lru, item.key⟩ ∈ cache.glyphRunLru

/-- The list, the map and the byte counter represent the items. The items come in the order of the
list, the one used last first. -/
structure Represents (cache : GlyphCache Pixels) (items : List (GlyphRunItem Pixels)) : Prop where
  lru : cache.glyphRunLru.map LruNode.key = items.map Item.key
  ids : (cache.glyphRunLru.map LruNode.id).Nodup
  fresh : ∀ node ∈ cache.glyphRunLru, node.id < cache.nextNode
  stores : ∀ item ∈ items, Stores cache item
  keys : cache.glyphRuns.keys.Perm (items.map Item.key)
  bytes : cache.glyphRunCacheBytes.toNat = totalWeight items

theorem Represents.size {items : List (GlyphRunItem Pixels)} (h : Represents cache items) :
    cache.glyphRuns.keys.length = items.length := by
  rw [h.keys.length_eq, List.length_map]

theorem Represents.length {items : List (GlyphRunItem Pixels)} (h : Represents cache items) :
    cache.glyphRunLru.length = items.length := by
  have := congrArg List.length h.lru
  simpa using this

/-- The key of an entry is the key of an item. -/
theorem Represents.find {items : List (GlyphRunItem Pixels)} (h : Represents cache items)
    {key : GlyphRunKey} {entry : GlyphRunCacheEntry Pixels}
    (hentry : cache.glyphRuns.lookup key = some entry) :
    ∃ item ∈ items, item.key = key ∧ entry.resource.bitmap = item.value ∧
      entry.bytes.toNat = item.weight ∧ ⟨entry.lru, key⟩ ∈ cache.glyphRunLru := by
  have hmem : key ∈ cache.glyphRuns.keys := by
    rw [← AList.mem_keys, ← AList.lookup_isSome, hentry]
    rfl
  obtain ⟨item, hitem, rfl⟩ := List.mem_map.1 (h.keys.subset hmem)
  obtain ⟨stored, hstored, hvalue, hweight, hnode⟩ := h.stores item hitem
  rw [hentry, Option.some.injEq] at hstored
  subst hstored
  exact ⟨item, hitem, rfl, hvalue, hweight, hnode⟩

theorem Represents.lookup_eq_none {items : List (GlyphRunItem Pixels)}
    (h : Represents cache items) {key : GlyphRunKey} :
    cache.glyphRuns.lookup key = none ↔ key ∉ items.map Item.key := by
  rw [AList.lookup_eq_none, AList.mem_keys, h.keys.mem_iff]

/-- What depends on neither the metrics nor the scratch bitmap. -/
theorem Represents.congr {cache' : GlyphCache Pixels} {items : List (GlyphRunItem Pixels)}
    (h : Represents cache items) (hruns : cache'.glyphRuns = cache.glyphRuns)
    (hlru : cache'.glyphRunLru = cache.glyphRunLru) (hnext : cache'.nextNode = cache.nextNode)
    (hbytes : cache'.glyphRunCacheBytes = cache.glyphRunCacheBytes) : Represents cache' items where
  lru := hlru ▸ h.lru
  ids := hlru ▸ h.ids
  fresh := by
    rw [hlru, hnext]
    exact h.fresh
  stores := by
    intro item hitem
    unfold Stores
    rw [hruns, hlru]
    exact h.stores item hitem
  keys := hruns ▸ h.keys
  bytes := hbytes ▸ h.bytes

theorem represents_clear (cache : GlyphCache Pixels) :
    Represents (clearGlyphRunCache cache) [] where
  lru := rfl
  ids := List.nodup_nil
  fresh := fun _ hnode => absurd hnode List.not_mem_nil
  stores := fun _ hitem => absurd hitem List.not_mem_nil
  keys := List.Perm.refl _
  bytes := rfl

/-! ### Evictions -/

/-- An eviction of a key that has an entry. -/
theorem evict_eq {node : LruNode} (hlast : cache.glyphRunLru.getLast? = some node)
    {entry : GlyphRunCacheEntry Pixels} (hentry : cache.glyphRuns.lookup node.key = some entry) :
    evictLeastRecentlyUsedGlyphRun cache = updateGlyphCacheMetrics
      { cache with
        glyphRunCacheBytes := cache.glyphRunCacheBytes - entry.bytes
        glyphRuns := cache.glyphRuns.erase node.key
        glyphRunLru := cache.glyphRunLru.dropLast
        metrics := { cache.metrics with evictions := cache.metrics.evictions + 1 } } := by
  rw [evictLeastRecentlyUsedGlyphRun, hlast]
  simp only
  rw [hentry]

/-- An eviction takes the last item, and the counter does not go below zero. -/
theorem Represents.evict {items : List (GlyphRunItem Pixels)} {last : GlyphRunItem Pixels}
    (h : Represents cache (items ++ [last])) (hnodup : ((items ++ [last]).map Item.key).Nodup) :
    Represents (evictLeastRecentlyUsedGlyphRun cache) items := by
  have hlru := h.lru
  rw [List.map_append, List.map_eq_append_iff] at hlru
  obtain ⟨nodes, ends, hnodes, hkeys, hends⟩ := hlru
  obtain ⟨node, rfl, hnode⟩ : ∃ node, ends = [node] ∧ node.key = last.key := by
    simpa [List.map_eq_cons_iff] using hends
  obtain ⟨entry, hentry, hvalue, hweight, hlruNode⟩ := h.stores last (by simp)
  have hbytes := h.bytes
  rw [totalWeight_concat] at hbytes
  have hevict := @evict_eq Pixels cache node (by rw [hnodes, List.getLast?_concat]) entry
    (by rwa [hnode])
  rw [hnodes, List.dropLast_concat, hnode] at hevict
  rw [List.map_append, List.nodup_append] at hnodup
  have hne : ∀ item ∈ items, item.key ≠ last.key := fun item hitem =>
    hnodup.2.2 _ (List.mem_map_of_mem hitem) _ (by simp)
  have hids := h.ids
  rw [hnodes, List.map_append] at hids
  rw [hevict]
  constructor
  case lru => exact hkeys
  case ids => exact (List.nodup_append.1 hids).1
  case fresh =>
    intro other hother
    exact h.fresh other (by rw [hnodes]; exact List.mem_append_left _ hother)
  case stores =>
    intro item hitem
    obtain ⟨stored, hstored, hv, hw, hmem⟩ := h.stores item (List.mem_append_left _ hitem)
    refine ⟨stored, ?_, hv, hw, ?_⟩
    · exact (AList.lookup_erase_ne (hne item hitem)).trans hstored
    · rw [hnodes] at hmem
      rcases List.mem_append.1 hmem with hmem | hmem
      · exact hmem
      · rw [List.mem_singleton] at hmem
        exact absurd ((congrArg LruNode.key hmem).trans hnode) (hne item hitem)
  case keys =>
    change (cache.glyphRuns.erase last.key).keys.Perm _
    rw [AList.keys_erase]
    have hperm := h.keys.erase last.key
    rw [List.map_append, List.erase_append_right _ (fun hmem => ?_)] at hperm
    · simpa using hperm
    · obtain ⟨item, hitem, heq⟩ := List.mem_map.1 hmem
      exact hne item hitem heq
  case bytes =>
    change (cache.glyphRunCacheBytes - entry.bytes).toNat = _
    rw [UInt64.toNat_sub_of_le _ _ (by rw [UInt64.le_iff_toNat_le]; omega)]
    omega

/-- The loop goes on exactly while there is something to evict and no room; the sums do not wrap
below the limit. -/
theorem overLimit_iff {items : List (GlyphRunItem Pixels)} (h : Represents cache items)
    {bytes : UInt64} (hbytes : bytes ≤ cache.config.maxBytes) :
    overLimit cache bytes ↔
      ¬ (items.length = 0 ∨ HasRoom cache.config.limits bytes.toNat items) := by
  have hlength := h.length
  have hsize := h.size
  have hcounter := h.bytes
  have hsub := UInt64.toNat_sub_of_le _ _ hbytes
  rw [UInt64.le_iff_toNat_le] at hbytes
  rw [overLimit, HasRoom, GlyphCacheConfig.limits, ← List.length_pos_iff, gt_iff_lt,
    UInt64.lt_iff_toNat_lt, hsub]
  dsimp only
  omega

/-- Evictions do not touch the limits. -/
theorem evict_config (cache : GlyphCache Pixels) :
    (evictLeastRecentlyUsedGlyphRun cache).config = cache.config := by
  unfold evictLeastRecentlyUsedGlyphRun
  split
  · rfl
  · dsimp only
    split <;> rfl

/-- The eviction loop is `makeRoom`. -/
theorem Represents.evictUntilFits {items : List (GlyphRunItem Pixels)} (h : Represents cache items)
    (hnodup : (items.map Item.key).Nodup) {bytes : UInt64}
    (hbytes : bytes ≤ cache.config.maxBytes) :
    Represents (evictUntilFits cache bytes) (makeRoom cache.config.limits bytes.toNat items) ∧
      (Wx.evictUntilFits cache bytes).config = cache.config := by
  induction items using List.reverseRecOn generalizing cache with
  | nil =>
    have hstop : ¬ overLimit cache bytes := by
      rw [overLimit_iff h hbytes]
      simp
    rw [Wx.evictUntilFits, dif_neg hstop, makeRoom, dif_pos (Or.inl List.length_nil)]
    exact ⟨h, rfl⟩
  | append_singleton items last ih =>
    rw [Wx.evictUntilFits, makeRoom]
    by_cases hover : overLimit cache bytes
    · rw [dif_pos hover, dif_neg ((overLimit_iff h hbytes).1 hover), List.dropLast_concat]
      rw [List.map_append] at hnodup
      have hnext := ih (h.evict (by rwa [List.map_append])) (List.nodup_append.1 hnodup).1
        (by rwa [evict_config])
      rw [evict_config] at hnext
      exact hnext
    · rw [dif_neg hover, dif_pos (not_not.1 fun hroom => hover ((overLimit_iff h hbytes).2 hroom))]
      exact ⟨h, rfl⟩

/-! ### Hits and misses -/

theorem erase_middle {keys keys' : List GlyphRunKey} {key : GlyphRunKey} (h : key ∉ keys) :
    (keys ++ key :: keys').erase key = keys ++ keys' := by
  rw [List.erase_append_right _ h, List.erase_cons_head]

/-- The node of an iterator goes to the front. -/
theorem spliceToFront_eq {lru : List LruNode} (hids : (lru.map LruNode.id).Nodup) {node : LruNode}
    (hnode : node ∈ lru) : ∃ before after, lru = before ++ node :: after ∧
      spliceToFront lru node.id = node :: (before ++ after) := by
  obtain ⟨before, after, rfl⟩ := List.append_of_mem hnode
  rw [List.map_append, List.nodup_append] at hids
  have hne : ∀ other ∈ before, ¬ other.id = node.id := fun other hother =>
    hids.2.2 _ (List.mem_map_of_mem hother) _ (by simp)
  refine ⟨before, after, rfl, ?_⟩
  have hfind : (before ++ node :: after).find? (fun other => other.id = node.id) = some node := by
    rw [List.find?_append, List.find?_eq_none.2 (by simpa using hne), Option.none_or,
      List.find?_cons_of_pos (by simp)]
  rw [spliceToFront, hfind]
  simp only
  rw [List.eraseP_append_right _ (by simpa using hne), List.eraseP_cons_of_pos (by simp)]

/-- A hit is `touch`. -/
theorem Represents.hit {limits : Limits} {items : List (GlyphRunItem Pixels)}
    (h : Represents cache items) (hwithin : Within limits items) {key : GlyphRunKey}
    {item : GlyphRunItem Pixels} (hfind : LruCache.find items key = some item)
    {entry : GlyphRunCacheEntry Pixels} (hentry : cache.glyphRuns.lookup key = some entry)
    (metrics : GlyphCacheMetrics) :
    Represents
      { cache with
        glyphRunLru := spliceToFront cache.glyphRunLru entry.lru
        metrics := metrics } (touch items key) := by
  obtain ⟨-, -, -, -, -, hnode⟩ := h.find hentry
  obtain ⟨before, after, hlru, hsplice⟩ := spliceToFront_eq h.ids hnode
  obtain ⟨hkey, front, back, hitems, htouch, hne⟩ := find_eq_some hwithin hfind
  have hperm := touch_perm hwithin key
  simp only at hsplice
  have hmoved : List.Perm (⟨entry.lru, key⟩ :: (before ++ after)) cache.glyphRunLru := by
    rw [hlru]
    exact List.perm_middle.symm
  constructor
  case lru =>
    -- both lists are the old keys with this one moved to the front
    have hkeys := h.lru
    rw [hlru, hitems, List.map_append, List.map_cons, List.map_append, List.map_cons, hkey] at hkeys
    have hnodup := hwithin.nodup
    rw [← h.lru, hlru, List.map_append, List.map_cons, List.nodup_append] at hnodup
    have hfront : key ∉ front.map Item.key := fun hmem => by
      obtain ⟨other, hother, heq⟩ := List.mem_map.1 hmem
      exact hne other (List.mem_append_left _ hother) heq
    have hbefore : key ∉ before.map LruNode.key := fun hmem =>
      hnodup.2.2 _ hmem _ List.mem_cons_self rfl
    have herased := congrArg (List.erase · key) hkeys
    simp only [erase_middle hfront, erase_middle hbefore] at herased
    change (spliceToFront cache.glyphRunLru entry.lru).map LruNode.key = _
    rw [hsplice, htouch, List.map_cons, List.map_cons, List.map_append, List.map_append, hkey,
      herased]
  case ids =>
    change ((spliceToFront cache.glyphRunLru entry.lru).map LruNode.id).Nodup
    rw [hsplice]
    exact (hmoved.map LruNode.id).nodup_iff.2 h.ids
  case fresh =>
    intro node hmem
    change node ∈ spliceToFront cache.glyphRunLru entry.lru at hmem
    rw [hsplice] at hmem
    exact h.fresh node (hmoved.subset hmem)
  case stores =>
    intro other hother
    obtain ⟨stored, hstored, hvalue, hweight, hmem⟩ := h.stores other (hperm.subset hother)
    refine ⟨stored, hstored, hvalue, hweight, ?_⟩
    change _ ∈ spliceToFront cache.glyphRunLru entry.lru
    rw [hsplice]
    exact hmoved.symm.subset hmem
  case keys => exact h.keys.trans (hperm.map Item.key).symm
  case bytes => exact h.bytes.trans (totalWeight_perm hperm).symm

/-- An insertion puts a new item at the front, and the counter does not overflow. -/
theorem Represents.insert {items : List (GlyphRunItem Pixels)} (h : Represents cache items)
    {key : GlyphRunKey} (hnew : key ∉ items.map Item.key) (resource : GlyphRunResource Pixels)
    {bytes : UInt64} (hroom : HasRoom cache.config.limits bytes.toNat items) :
    Represents (insertGlyphRun cache key resource bytes)
      (⟨key, resource.bitmap, bytes.toNat⟩ :: items) := by
  have hne : ∀ item ∈ items, item.key ≠ key := by
    rintro item hitem rfl
    exact hnew (List.mem_map_of_mem hitem)
  constructor
  case lru =>
    change key :: cache.glyphRunLru.map LruNode.key = key :: items.map Item.key
    rw [h.lru]
  case ids =>
    change (cache.nextNode :: cache.glyphRunLru.map LruNode.id).Nodup
    refine List.nodup_cons.2 ⟨fun hmem => ?_, h.ids⟩
    obtain ⟨node, hnode, heq⟩ := List.mem_map.1 hmem
    exact Nat.lt_irrefl _ (heq ▸ h.fresh node hnode)
  case fresh =>
    intro node hnode
    change node.id < cache.nextNode + 1
    rcases List.mem_cons.1 hnode with rfl | hnode
    · exact Nat.lt_succ_self _
    · exact Nat.lt_succ_of_lt (h.fresh node hnode)
  case stores =>
    intro item hitem
    rcases List.mem_cons.1 hitem with rfl | hitem
    · exact ⟨⟨resource, bytes, cache.nextNode⟩, AList.lookup_insert _, rfl, rfl,
        List.mem_cons_self⟩
    · obtain ⟨stored, hstored, hvalue, hweight, hnode⟩ := h.stores item hitem
      exact ⟨stored, (AList.lookup_insert_ne (hne item hitem)).trans hstored, hvalue, hweight,
        List.mem_cons_of_mem _ hnode⟩
  case keys =>
    change (cache.glyphRuns.insert key _).keys.Perm (key :: items.map Item.key)
    rw [AList.keys_insert, List.erase_of_not_mem fun hmem => hnew (h.keys.subset hmem)]
    exact h.keys.cons key
  case bytes =>
    change (cache.glyphRunCacheBytes + bytes).toNat = _
    have hsum := hroom.2
    have hlimit := cache.config.maxBytes.toNat_lt
    change totalWeight items + bytes.toNat ≤ cache.config.maxBytes.toNat at hsum
    rw [UInt64.toNat_add, h.bytes, Nat.mod_eq_of_lt (by omega), totalWeight_cons, Nat.add_comm]

end represents

/-! ## Evictions, turn by turn -/

section turns

variable {Pixels : Type} {cache : GlyphCache Pixels}

theorem evict_of_nil (h : cache.glyphRunLru = []) :
    evictLeastRecentlyUsedGlyphRun cache = cache := by
  rw [evictLeastRecentlyUsedGlyphRun, h]
  rfl

/-- After `n` evictions the last `n` items are gone. -/
theorem Represents.iterate_evict {items : List (GlyphRunItem Pixels)} (h : Represents cache items)
    (hnodup : (items.map Item.key).Nodup) (n : Nat) :
    ∃ kept, List.IsPrefix kept items ∧
      Represents (evictLeastRecentlyUsedGlyphRun^[n] cache) kept := by
  induction n with
  | zero => exact ⟨items, List.prefix_rfl, h⟩
  | succ n ih =>
    obtain ⟨kept, hkeeps, hkept⟩ := ih
    rw [Function.iterate_succ_apply']
    rcases kept.eq_nil_or_concat' with rfl | ⟨init, last, rfl⟩
    · have hnil : (evictLeastRecentlyUsedGlyphRun^[n] cache).glyphRunLru = [] :=
        List.eq_nil_of_length_eq_zero hkept.length
      rw [evict_of_nil hnil]
      exact ⟨[], hkeeps, hkept⟩
    · refine ⟨init, (List.prefix_append init [last]).trans hkeeps, hkept.evict ?_⟩
      exact hnodup.sublist (hkeeps.sublist.map Item.key)

/-- The loop evicts as long as the limits do not allow the new bitmap, and then ends. -/
theorem exists_iterate_evict (cache : GlyphCache Pixels) (bytes : UInt64) :
    ∃ n ≤ cache.glyphRunLru.length,
      evictUntilFits cache bytes = evictLeastRecentlyUsedGlyphRun^[n] cache ∧
      (∀ m < n, overLimit (evictLeastRecentlyUsedGlyphRun^[m] cache) bytes) ∧
      ¬ overLimit (evictLeastRecentlyUsedGlyphRun^[n] cache) bytes := by
  fun_induction evictUntilFits cache bytes with
  | case1 cache hover ih =>
    obtain ⟨n, hle, heq, hturns, hend⟩ := ih
    rw [evict_lru, List.length_dropLast] at hle
    have hpos := List.length_pos_iff.2 hover.1
    refine ⟨n + 1, by omega, heq, ?_, hend⟩
    intro m hm
    cases m with
    | zero => exact hover
    | succ m => exact hturns m (by omega)
  | case2 cache hover =>
    exact ⟨0, Nat.zero_le _, rfl, fun m hm => absurd hm (Nat.not_lt_zero m), hover⟩

/-- What the loop leaves alone. -/
theorem evictUntilFits_peakBytes (cache : GlyphCache Pixels) (bytes : UInt64) :
    (evictUntilFits cache bytes).metrics.peakBytes = cache.metrics.peakBytes := by
  obtain ⟨n, -, heq, -, -⟩ := exists_iterate_evict cache bytes
  rw [heq]
  clear heq
  induction n with
  | zero => rfl
  | succ n ih =>
    rw [Function.iterate_succ_apply', ← ih]
    generalize evictLeastRecentlyUsedGlyphRun^[n] cache = middle
    unfold evictLeastRecentlyUsedGlyphRun
    split
    · rfl
    · dsimp only
      split <;> rfl

end turns

/-! ## Runs -/

/-- The operations on the cache. -/
inductive GlyphCacheOp (Pixels : Type) where
  | glyphRunBitmap (request : GlyphRunRequest Pixels)
  | clearGlyphRunCache
  | updateCellSize (cellWidth cellHeight : Int)

/-- The cache with the history of its requests and of the bitmaps stored, newest first. -/
structure GlyphCacheRun (Pixels : Type) where
  cache : GlyphCache Pixels
  uses : List GlyphRunKey := []
  stored : List (GlyphRunKey × WxBitmap Pixels) := []

section run

variable {Pixels : Type}

/-- The request is a miss whose bitmap goes into the cache. -/
def storesBitmap (cache : GlyphCache Pixels) (request : GlyphRunRequest Pixels) : Bool :=
  (cache.glyphRuns.lookup (glyphRunKey cache request)).isNone &&
    cacheable cache.config (newBitmap cache request)

/-- One operation, and what it adds to the history. -/
def GlyphCacheRun.next (run : GlyphCacheRun Pixels) : GlyphCacheOp Pixels → GlyphCacheRun Pixels
  | .glyphRunBitmap request =>
    { cache := (Wx.glyphRunBitmap run.cache request).2
      uses := glyphRunKey run.cache request :: run.uses
      stored :=
        if storesBitmap run.cache request then
          (glyphRunKey run.cache request, newBitmap run.cache request) :: run.stored
        else run.stored }
  | .clearGlyphRunCache => { run with cache := Wx.clearGlyphRunCache run.cache }
  | .updateCellSize cellWidth cellHeight =>
    { run with cache := Wx.updateCellSize run.cache cellWidth cellHeight }

/-- All runs of the cache of a renderer, with any limits. -/
def glyphCacheSystem (Pixels : Type) :
    TransitionSystem (GlyphCacheRun Pixels) (GlyphCacheOp Pixels) where
  init run := ∃ config identity,
    run = { cache := { config := config, glyphFontIdentity := identity } }
  step run op run' := run' = run.next op

/-- The items of the cache with what the library says of them. These are the invariants of the
library at the renderer's cache. -/
structure RunItems (run : GlyphCacheRun Pixels) (items : List (GlyphRunItem Pixels)) : Prop where
  represents : Represents run.cache items
  within : Within run.cache.config.limits items
  recent : RecentFirst run.uses items
  holds : HoldsLast run.stored items
  peak : run.cache.metrics.peakBytes ≤ run.cache.config.maxBytes

variable {cache : GlyphCache Pixels} {request : GlyphRunRequest Pixels}

theorem glyphRunBitmap_hit {entry : GlyphRunCacheEntry Pixels}
    (hentry : cache.glyphRuns.lookup (glyphRunKey cache request) = some entry) :
    glyphRunBitmap cache request = (entry.resource.bitmap,
      { cache with
        glyphRunLru := spliceToFront cache.glyphRunLru entry.lru
        metrics := { cache.metrics with hits := cache.metrics.hits + 1 } }) := by
  simp only [glyphRunBitmap, hentry]

/-- The cache when a miss was counted. -/
def countMiss (cache : GlyphCache Pixels) : GlyphCache Pixels :=
  { cache with metrics := { cache.metrics with misses := cache.metrics.misses + 1 } }

theorem glyphRunBitmap_store
    (hmiss : cache.glyphRuns.lookup (glyphRunKey cache request) = none)
    (hcacheable : cacheable cache.config (newBitmap cache request) = true) :
    glyphRunBitmap cache request = (newBitmap cache request,
      insertGlyphRun
        (evictUntilFits (countMiss cache) (bitmapBytes (newBitmap cache request)))
        (glyphRunKey cache request) ⟨newBitmap cache request, request.measuredSize⟩
        (bitmapBytes (newBitmap cache request))) := by
  rw [glyphRunBitmap]
  simp only [hmiss]
  exact if_pos hcacheable

theorem glyphRunBitmap_bypass
    (hmiss : cache.glyphRuns.lookup (glyphRunKey cache request) = none)
    (hcacheable : cacheable cache.config (newBitmap cache request) = false) :
    glyphRunBitmap cache request = (newBitmap cache request,
      { countMiss cache with glyphBitmapScratch := some (newBitmap cache request) }) := by
  rw [glyphRunBitmap]
  simp only [hmiss]
  exact if_neg (by rw [Bool.not_eq_true]; exact hcacheable)

/-- A cacheable bitmap fits into the empty cache. -/
theorem cacheable_spec {config : GlyphCacheConfig} {bitmap : WxBitmap Pixels}
    (h : cacheable config bitmap = true) :
    0 < config.limits.entries ∧ bitmapBytes bitmap ≤ config.maxBytes ∧
      (bitmapBytes bitmap).toNat ≤ config.limits.weight := by
  simp only [cacheable, Bool.and_eq_true, decide_eq_true_eq, gt_iff_lt] at h
  obtain ⟨⟨-, hentries⟩, hbytes⟩ := h
  exact ⟨UInt64.lt_iff_toNat_lt.1 hentries, hbytes, UInt64.le_iff_toNat_le.1 hbytes⟩

/-- The item of a stored bitmap. -/
def newItem (cache : GlyphCache Pixels) (request : GlyphRunRequest Pixels) :
    GlyphRunItem Pixels where
  key := glyphRunKey cache request
  value := newBitmap cache request
  weight := (bitmapBytes (newBitmap cache request)).toNat

/-- A miss that is cached is `store`. -/
theorem Represents.store {items : List (GlyphRunItem Pixels)} (h : Represents cache items)
    (hnodup : (items.map Item.key).Nodup)
    (hmiss : cache.glyphRuns.lookup (glyphRunKey cache request) = none)
    (hcacheable : cacheable cache.config (newBitmap cache request) = true) :
    Represents (glyphRunBitmap cache request).2
        (LruCache.store cache.config.limits items (newItem cache request)) ∧
      (glyphRunBitmap cache request).2.config = cache.config := by
  obtain ⟨hentries, hbytes, hweight⟩ := cacheable_spec hcacheable
  have hcounted : Represents (countMiss cache) items := h.congr rfl rfl rfl rfl
  obtain ⟨hevicted, hconfig⟩ := hcounted.evictUntilFits hnodup hbytes
  rw [glyphRunBitmap_store hmiss hcacheable]
  refine ⟨?_, hconfig⟩
  have hnew : glyphRunKey cache request ∉
      (makeRoom (countMiss cache).config.limits (newItem cache request).weight items).map
        Item.key := fun hmem =>
    h.lookup_eq_none.1 hmiss ((makeRoom_keeps _ _ items).sublist.map Item.key |>.subset hmem)
  refine hevicted.insert hnew ⟨newBitmap cache request, request.measuredSize⟩ ?_
  rw [hconfig]
  exact hasRoom_makeRoom hentries hweight items

theorem store_peakBytes
    (hmiss : cache.glyphRuns.lookup (glyphRunKey cache request) = none)
    (hcacheable : cacheable cache.config (newBitmap cache request) = true) :
    (glyphRunBitmap cache request).2.metrics.peakBytes =
      max cache.metrics.peakBytes (glyphRunBitmap cache request).2.glyphRunCacheBytes := by
  rw [glyphRunBitmap_store hmiss hcacheable]
  change max (evictUntilFits (countMiss cache) _).metrics.peakBytes _ = _
  rw [evictUntilFits_peakBytes]
  rfl

/-- What a request does to the items: `touch`, `store`, or nothing. -/
theorem RunItems.glyphRunBitmap {run : GlyphCacheRun Pixels} {items : List (GlyphRunItem Pixels)}
    (h : RunItems run items) (request : GlyphRunRequest Pixels) :
    ∃ items', RunItems (run.next (.glyphRunBitmap request)) items' := by
  cases hlookup : run.cache.glyphRuns.lookup (glyphRunKey run.cache request) with
  | some entry =>
    have hstays : storesBitmap run.cache request = false := by simp [storesBitmap, hlookup]
    obtain ⟨item, hitem, hkey, -⟩ := h.represents.find hlookup
    obtain ⟨found, hfind⟩ : ∃ found, LruCache.find items (glyphRunKey run.cache request) =
        some found := by
      rw [← Option.isSome_iff_exists, ← Option.ne_none_iff_isSome, Ne, find_eq_none_iff, not_not,
        ← hkey]
      exact List.mem_map_of_mem hitem
    refine ⟨touch items (glyphRunKey run.cache request), ?_⟩
    rw [GlyphCacheRun.next, glyphRunBitmap_hit hlookup, hstays, if_neg Bool.false_ne_true]
    exact
      { represents := h.represents.hit h.within hfind hlookup _
        within := h.within.touch _
        recent := h.recent.touch h.within hfind
        holds := h.holds.subset (touch_perm h.within _).subset
        peak := h.peak }
  | none =>
    have hnew := h.represents.lookup_eq_none.1 hlookup
    cases hcacheable : cacheable run.cache.config (newBitmap run.cache request) with
    | true =>
      have hstored : storesBitmap run.cache request = true := by
        simp [storesBitmap, hlookup, hcacheable]
      obtain ⟨hentries, hbytes, hweight⟩ := cacheable_spec hcacheable
      obtain ⟨hrepresents, hconfig⟩ := h.represents.store h.within.nodup hlookup hcacheable
      have hwithin : Within run.cache.config.limits
          (LruCache.store run.cache.config.limits items (newItem run.cache request)) :=
        h.within.store hnew hentries hweight
      have hrecent : RecentFirst ((newItem run.cache request).key :: run.uses)
          (LruCache.store run.cache.config.limits items (newItem run.cache request)) :=
        h.recent.store _ hnew
      refine ⟨LruCache.store run.cache.config.limits items (newItem run.cache request), ?_⟩
      rw [GlyphCacheRun.next, hstored, if_pos rfl]
      refine
        { represents := hrepresents
          within := by rwa [hconfig]
          recent := hrecent
          holds := h.holds.store run.cache.config.limits hnew
          peak := ?_ }
      -- the peak is an earlier one or the new counter, and both keep the limit
      change (Wx.glyphRunBitmap run.cache request).2.metrics.peakBytes ≤
        (Wx.glyphRunBitmap run.cache request).2.config.maxBytes
      have hpeak := h.peak
      have htotal := hwithin.weight
      rw [← hrepresents.bytes] at htotal
      change _ ≤ run.cache.config.maxBytes.toNat at htotal
      rw [store_peakBytes hlookup hcacheable, hconfig, UInt64.le_iff_toNat_le]
      rw [UInt64.le_iff_toNat_le] at hpeak
      change (if run.cache.metrics.peakBytes ≤
        (Wx.glyphRunBitmap run.cache request).2.glyphRunCacheBytes then _ else _ : UInt64).toNat ≤ _
      split
      · exact htotal
      · exact hpeak
    | false =>
      have hstays : storesBitmap run.cache request = false := by
        simp [storesBitmap, hcacheable]
      refine ⟨items, ?_⟩
      rw [GlyphCacheRun.next, glyphRunBitmap_bypass hlookup hcacheable, hstays,
        if_neg Bool.false_ne_true]
      refine
        { represents := h.represents.congr rfl rfl rfl rfl
          within := h.within
          recent := h.recent.use fun item hitem hkey => hnew (hkey ▸ List.mem_map_of_mem hitem)
          holds := h.holds
          peak := h.peak }

/-- An empty cache. -/
theorem runItems_nil {run : GlyphCacheRun Pixels} (hrepresents : Represents run.cache [])
    (hpeak : run.cache.metrics.peakBytes ≤ run.cache.config.maxBytes) : RunItems run [] where
  represents := hrepresents
  within := within_nil _
  recent := List.Pairwise.nil
  holds := fun _ hitem => absurd hitem List.not_mem_nil
  peak := hpeak

/-- Another cell size clears the cache, and the same one leaves it. -/
theorem RunItems.updateCellSize {run : GlyphCacheRun Pixels} {items : List (GlyphRunItem Pixels)}
    (h : RunItems run items) (cellWidth cellHeight : Int) :
    ∃ items', RunItems (run.next (.updateCellSize cellWidth cellHeight)) items' := by
  simp only [GlyphCacheRun.next, Wx.updateCellSize]
  split
  · exact ⟨[], runItems_nil (represents_clear _) h.peak⟩
  · exact ⟨items,
      { represents := h.represents.congr rfl rfl rfl rfl
        within := h.within
        recent := h.recent
        holds := h.holds
        peak := h.peak }⟩

/-- In every run the members represent the items of a bounded cache. -/
theorem exists_runItems {run : GlyphCacheRun Pixels}
    (h : (glyphCacheSystem Pixels).Reachable (fun _ _ => True) run) :
    ∃ items, RunItems run items := by
  refine h.invariant (I := fun run => ∃ items, RunItems run items) ?_ ?_
  · rintro _ ⟨config, identity, rfl⟩
    have hempty : Represents
        ({ config := config, glyphFontIdentity := identity } : GlyphCache Pixels) [] :=
      (represents_clear { config := config, glyphFontIdentity := identity }).congr rfl rfl rfl rfl
    exact ⟨[], runItems_nil hempty UInt64.zero_le⟩
  · rintro run op run' - ⟨items, hitems⟩ - hstep
    rw [hstep]
    cases op with
    | glyphRunBitmap request => exact hitems.glyphRunBitmap request
    | clearGlyphRunCache =>
      exact ⟨[], runItems_nil (represents_clear run.cache) hitems.peak⟩
    | updateCellSize cellWidth cellHeight => exact hitems.updateCellSize cellWidth cellHeight

/-! ## What holds in every run -/

/-- The bytes of the entries of some keys. -/
def bytesOf (cache : GlyphCache Pixels) (keys : List GlyphRunKey) : Nat :=
  (keys.map fun key =>
    ((cache.glyphRuns.lookup key).map fun entry => entry.bytes.toNat).getD 0).sum

/-- The keys of the list, the one used last first. -/
def lruKeys (cache : GlyphCache Pixels) : List GlyphRunKey :=
  cache.glyphRunLru.map LruNode.key

/-- The cache is a bounded cache that forgets the least recently used bitmap. All of it is stated on
the members, without the items that they represent. -/
structure LruCorrect (run : GlyphCacheRun Pixels) : Prop where
  keys : (lruKeys run.cache).Perm run.cache.glyphRuns.keys
  nodup : (lruKeys run.cache).Nodup
  order : (lruKeys run.cache).Pairwise fun a b => run.uses.idxOf a < run.uses.idxOf b
  ids : (run.cache.glyphRunLru.map LruNode.id).Nodup
  iterators : ∀ key entry, run.cache.glyphRuns.lookup key = some entry →
    ⟨entry.lru, key⟩ ∈ run.cache.glyphRunLru
  bytes : run.cache.glyphRunCacheBytes.toNat = bytesOf run.cache run.cache.glyphRuns.keys
  entries_le : run.cache.glyphRuns.keys.length ≤ run.cache.config.maxEntries.toNat
  bytes_le : run.cache.glyphRunCacheBytes ≤ run.cache.config.maxBytes
  peak_le : run.cache.metrics.peakBytes ≤ run.cache.config.maxBytes
  /-- A hit returns the bitmap stored last for the key. -/
  hit : ∀ request entry,
    run.cache.glyphRuns.lookup (glyphRunKey run.cache request) = some entry →
      run.stored.lookup (glyphRunKey run.cache request) =
        some (glyphRunBitmap run.cache request).1
  /-- An insertion keeps the longest part of the list, from its front, that leaves room. -/
  evicts : ∀ request, storesBitmap run.cache request = true →
    ∃ kept ≤ (lruKeys run.cache).length,
      lruKeys (glyphRunBitmap run.cache request).2 =
        glyphRunKey run.cache request :: (lruKeys run.cache).take kept ∧
      ∀ more ≤ (lruKeys run.cache).length, kept < more →
        ¬ (more < run.cache.config.maxEntries.toNat ∧
          bytesOf run.cache ((lruKeys run.cache).take more) +
            (bitmapBytes (newBitmap run.cache request)).toNat ≤ run.cache.config.maxBytes.toNat)
  /-- The loop ends after at most as many turns as there are nodes. -/
  turns : ∀ bytes, ∃ n ≤ run.cache.glyphRunLru.length,
    evictUntilFits run.cache bytes = evictLeastRecentlyUsedGlyphRun^[n] run.cache
  /-- In no turn the counter is smaller than what is subtracted from it. -/
  noUnderflow : ∀ n key entry,
    (evictLeastRecentlyUsedGlyphRun^[n] run.cache).glyphRuns.lookup key = some entry →
      entry.bytes ≤ (evictLeastRecentlyUsedGlyphRun^[n] run.cache).glyphRunCacheBytes
  /-- The loop runs only for bitmaps that are not larger than the limit they are subtracted from. -/
  fits : ∀ request, storesBitmap run.cache request = true →
    bitmapBytes (newBitmap run.cache request) ≤ run.cache.config.maxBytes

theorem Represents.bytesOf_eq {items items' : List (GlyphRunItem Pixels)}
    (h : Represents cache items) (hsub : items' ⊆ items) :
    bytesOf cache (items'.map Item.key) = totalWeight items' := by
  rw [Wx.bytesOf, totalWeight, List.map_map]
  refine congrArg List.sum (List.map_congr_left fun item hitem => ?_)
  obtain ⟨entry, hentry, -, hweight, -⟩ := h.stores item (hsub hitem)
  simp [hentry, hweight]

theorem Represents.entry_le {items : List (GlyphRunItem Pixels)} (h : Represents cache items)
    {key : GlyphRunKey} {entry : GlyphRunCacheEntry Pixels}
    (hentry : cache.glyphRuns.lookup key = some entry) :
    entry.bytes ≤ cache.glyphRunCacheBytes := by
  obtain ⟨item, hitem, -, -, hweight, -⟩ := h.find hentry
  rw [UInt64.le_iff_toNat_le, hweight, h.bytes]
  exact weight_le_totalWeight hitem

/-- An insertion drops the least recently used keys, and no more of them than it has to. -/
theorem Represents.evicts {items : List (GlyphRunItem Pixels)} (h : Represents cache items)
    (hnodup : (items.map Item.key).Nodup) (hstores : storesBitmap cache request = true) :
    ∃ kept ≤ (lruKeys cache).length,
      lruKeys (glyphRunBitmap cache request).2 =
        glyphRunKey cache request :: (lruKeys cache).take kept ∧
      ∀ more ≤ (lruKeys cache).length, kept < more →
        ¬ (more < cache.config.maxEntries.toNat ∧
          bytesOf cache ((lruKeys cache).take more) +
            (bitmapBytes (newBitmap cache request)).toNat ≤ cache.config.maxBytes.toNat) := by
  rw [storesBitmap, Bool.and_eq_true, Option.isNone_iff_eq_none] at hstores
  obtain ⟨hrepresents, -⟩ := h.store hnodup hstores.1 hstores.2
  obtain ⟨kept, hle, hkept, -, hmost⟩ :=
    makeRoom_spec cache.config.limits (newItem cache request).weight items
  have hkeys : lruKeys cache = items.map Item.key := h.lru
  refine ⟨kept, by rwa [hkeys, List.length_map], ?_, ?_⟩
  · refine hrepresents.lru.trans ?_
    rw [LruCache.store, hkept, List.map_cons, hkeys, List.map_take]
    rfl
  · rw [hkeys, List.length_map]
    rintro more hmore hlt ⟨hentries, hbytes⟩
    refine hmost more hmore hlt ⟨?_, ?_⟩
    · rw [List.length_take, Nat.min_eq_left hmore]
      exact hentries
    · rw [← List.map_take, h.bytesOf_eq (List.take_subset more items)] at hbytes
      exact hbytes

/-- In every run of requests and clears, whatever the limits and the bitmaps. -/
theorem glyphCache_correct {run : GlyphCacheRun Pixels}
    (h : (glyphCacheSystem Pixels).Reachable (fun _ _ => True) run) : LruCorrect run := by
  obtain ⟨items, hrun⟩ := exists_runItems h
  have hrepresents := hrun.represents
  have hkeys : lruKeys run.cache = items.map Item.key := hrepresents.lru
  constructor
  case keys => exact hkeys ▸ hrepresents.keys.symm
  case nodup => exact hkeys ▸ hrun.within.nodup
  case order =>
    rw [hkeys, List.pairwise_map]
    exact hrun.recent
  case ids => exact hrepresents.ids
  case iterators =>
    intro key entry hentry
    obtain ⟨-, -, -, -, -, hnode⟩ := hrepresents.find hentry
    exact hnode
  case bytes =>
    rw [hrepresents.bytes, ← hrepresents.bytesOf_eq (List.Subset.refl items)]
    exact ((hrepresents.keys.map _).sum_eq).symm
  case entries_le =>
    rw [hrepresents.size]
    exact hrun.within.entries
  case bytes_le =>
    rw [UInt64.le_iff_toNat_le, hrepresents.bytes]
    exact hrun.within.weight
  case peak_le => exact hrun.peak
  case hit =>
    intro request entry hentry
    obtain ⟨item, hitem, hkey, hvalue, -⟩ := hrepresents.find hentry
    rw [glyphRunBitmap_hit hentry, ← hkey, hrun.holds item hitem, hvalue]
  case evicts => exact fun request hstores => hrepresents.evicts hrun.within.nodup hstores
  case turns =>
    intro bytes
    obtain ⟨n, hle, heq, -⟩ := exists_iterate_evict run.cache bytes
    exact ⟨n, hle, heq⟩
  case noUnderflow =>
    intro n key entry hentry
    obtain ⟨kept, -, hkept⟩ := hrepresents.iterate_evict hrun.within.nodup n
    exact hkept.entry_le hentry
  case fits =>
    intro request hstores
    rw [storesBitmap, Bool.and_eq_true] at hstores
    exact (cacheable_spec hstores.2).2.1

end run

/-- A request for one character of one cell, whose bitmap takes 4 bytes. -/
def characterRequest (character : UInt8) : GlyphRunRequest Unit where
  text := [character]
  cellCount := 1
  attributes := 0
  foreground := { red := 255 }
  background := {}
  ppi := (96, 96)
  measuredSize := (1, 1)
  drawnBitmap := fun width height => ⟨true, width, height, 32, ()⟩

/-- Room for two bitmaps: `A`, `B`, `A` again, and `C`, for which `B` has to go. -/
theorem glyphCache_correct_evicts :
    LruCorrect (([65, 66, 65, 67].map fun character =>
        GlyphCacheOp.glyphRunBitmap (characterRequest character)).foldl GlyphCacheRun.next
      { cache := { config := ⟨2, 1024⟩, glyphFontIdentity := 0 } }) :=
  glyphCache_correct
    (.foldl GlyphCacheRun.next (fun _ _ => ⟨trivial, rfl⟩) _ (.init ⟨_, _, rfl⟩))

end SakuraTerminal.Wx
