import Mathlib.Logic.Function.Basic

namespace UvcFrame

/-- `sat`: clamp an `int` to `[0, 255]` and narrow it to `unsigned char`. -/
def sat (i : Int) : UInt8 :=
  UInt8.ofNat (if i ≥ 255 then 255 else if i < 0 then 0 else i).toNat

theorem sat_clamps (i : Int) : ((sat i).toNat : Int) = max 0 (min 255 i) := by
  have wrap : ∀ n : Nat, (UInt8.ofNat n).toNat = n % 256 := fun _ => rfl
  rw [sat, wrap]
  split_ifs <;> omega

example : sat 302 = 255 ∧ sat (-5) = 0 ∧ sat 75 = 75 := by decide

/-- The `r` term of the kernels, `(22987 * (V - 128)) >> 14`, an arithmetic shift. -/
def chromaR (v : UInt8) : Int :=
  (22987 * ((v.toNat : Int) - 128)) >>> (14 : Nat)

def chromaG (u v : UInt8) : Int :=
  (-5636 * ((u.toNat : Int) - 128) - 11698 * ((v.toNat : Int) - 128)) >>> (14 : Nat)

def chromaB (u : UInt8) : Int :=
  (29049 * ((u.toNat : Int) - 128)) >>> (14 : Nat)

theorem shiftRight_fourteen (x : Int) : x >>> (14 : Nat) = x.fdiv 16384 := by
  rw [Int.shiftRight_eq_div_pow, Int.fdiv_eq_ediv _ (by decide)]
  rfl

def storeBytes (mem : Nat → UInt8) (p : Nat) : List UInt8 → Nat → UInt8
  | [] => mem
  | value :: rest => storeBytes (Function.update mem p value) (p + 1) rest

theorem storeBytes_apply (mem : Nat → UInt8) (p : Nat) (values : List UInt8) (i : Nat) :
    storeBytes mem p values i = if p ≤ i ∧ i < p + values.length then values.getD (i - p) 0 else mem i := by
  induction values generalizing mem p with
  | nil => rw [storeBytes, if_neg (by simp)]
  | cons value rest ih =>
      rw [storeBytes, ih]
      by_cases here : i = p
      · subst here
        rw [if_neg (by omega), if_pos (by simp)]
        simp
      · simp only [Function.update_apply, here, if_false, List.length_cons]
        by_cases inside : p + 1 ≤ i ∧ i < p + 1 + rest.length
        · rw [if_pos inside, if_pos (by omega),
            show i - p = i - (p + 1) + 1 by omega, List.getD_cons_succ]
        · rw [if_neg inside, if_neg (by omega)]

/-- Where a 4:2:2 unit keeps its samples: the offsets of `Y0`, `U`, `Y1` and `V` in its 4 bytes. -/
structure Packing where
  y0 : Nat
  u : Nat
  y1 : Nat
  v : Nat

def Packing.yuyv : Packing := ⟨0, 1, 2, 3⟩

def Packing.uyvy : Packing := ⟨1, 0, 3, 2⟩

inductive ChannelOrder where
  | rgb | bgr

def ChannelOrder.arrange : ChannelOrder → Int → Int → Int → Int × Int × Int
  | .rgb, r, g, b => (r, g, b)
  | .bgr, r, g, b => (b, g, r)

/-- A pixel macro: from the source bytes and an offset into them, it rewrites the destination
bytes from an offset on. -/
abbrev PixelMacro := (Nat → UInt8) → Nat → (Nat → UInt8) → Nat → Nat → UInt8

/-- The 2-pixel macros `IYUYV2RGB_2`, `IUYVY2RGB_2` and `IUYVY2BGR_2`: `r`, `g`
and `b` from the unit's chroma, then the six bytes of its two pixels, in store order. -/
def convert2 (packing : Packing) (order : ChannelOrder) : PixelMacro :=
  fun pyuv p prgb q =>
    let u := pyuv (p + packing.u)
    let v := pyuv (p + packing.v)
    let y0 : Int := (pyuv (p + packing.y0)).toNat
    let y1 : Int := (pyuv (p + packing.y1)).toNat
    let (c0, c1, c2) := order.arrange (chromaR v) (chromaG u v) (chromaB u)
    storeBytes prgb q [sat (y0 + c0), sat (y0 + c1), sat (y0 + c2),
      sat (y1 + c0), sat (y1 + c1), sat (y1 + c2)]

def iyuyv2rgb2 : PixelMacro := convert2 .yuyv .rgb
def iuyvy2rgb2 : PixelMacro := convert2 .uyvy .rgb
def iuyvy2bgr2 : PixelMacro := convert2 .uyvy .bgr

/-- `X_4(pyuv, prgb)` is `X_2(pyuv, prgb); X_2(pyuv + 4, prgb + 6);` and `X_8` is two `X_4`
the same way, 8 and 12 bytes apart. -/
def unroll (body : PixelMacro) (dp dq : Nat) : PixelMacro :=
  fun pyuv p prgb q => body pyuv (p + dp) (body pyuv p prgb q) (q + dq)

def iyuyv2rgb4 : PixelMacro := unroll iyuyv2rgb2 4 6
def iyuyv2rgb8 : PixelMacro := unroll iyuyv2rgb4 8 12
def iuyvy2rgb4 : PixelMacro := unroll iuyvy2rgb2 4 6
def iuyvy2rgb8 : PixelMacro := unroll iuyvy2rgb4 8 12
def iuyvy2bgr4 : PixelMacro := unroll iuyvy2bgr2 4 6
def iuyvy2bgr8 : PixelMacro := unroll iuyvy2bgr4 8 12

/-- `IYUYV2Y` and `IYUYV2UV`: `(py)[0] = pyuv[k]`, with `k` 0 for the luma and 1 for the chroma. -/
def pick (k : Nat) : PixelMacro :=
  fun pyuv p py q => Function.update py q (pyuv (p + k))

def iyuyv2y : PixelMacro := pick 0
def iyuyv2uv : PixelMacro := pick 1

/-- `body` stores bytes `[q, q + width)` and no other, byte `q + r` being `value src p r`. -/
def StoresRun (body : PixelMacro) (width : Nat) (value : (Nat → UInt8) → Nat → Nat → UInt8) : Prop :=
  ∀ src p dst q i, body src p dst q i = if q ≤ i ∧ i < q + width then value src p (i - q) else dst i

def unitByte (packing : Packing) (order : ChannelOrder) (src : Nat → UInt8) (p c : Nat) : UInt8 :=
  let luma : Int := (src (p + if c < 3 then packing.y0 else packing.y1)).toNat
  let (c0, c1, c2) := order.arrange (chromaR (src (p + packing.v)))
    (chromaG (src (p + packing.u)) (src (p + packing.v))) (chromaB (src (p + packing.u)))
  sat (luma + if c % 3 = 0 then c0 else if c % 3 = 1 then c1 else c2)

/-- Byte `r` of the pixels converted from the units at `p`, `p + 4`, `p + 8`, ...: each 4-byte
unit becomes 6 bytes. -/
def unitRun (packing : Packing) (order : ChannelOrder) (src : Nat → UInt8) (p r : Nat) : UInt8 :=
  unitByte packing order src (p + 4 * (r / 6)) (r % 6)

theorem convert2_stores (packing : Packing) (order : ChannelOrder) :
    StoresRun (convert2 packing order) 6 (unitRun packing order) := by
  intro src p dst q i
  simp only [convert2, storeBytes_apply, List.length_cons, List.length_nil]
  split
  · rename_i inside
    have cases : i - q = 0 ∨ i - q = 1 ∨ i - q = 2 ∨ i - q = 3 ∨ i - q = 4 ∨ i - q = 5 := by omega
    cases order <;> rcases cases with same | same | same | same | same | same <;>
      simp [same, unitRun, unitByte, ChannelOrder.arrange]
  · rfl

theorem unroll_stores (n : Nat) {body : PixelMacro} {packing : Packing} {order : ChannelOrder}
    (stores : StoresRun body (6 * n) (unitRun packing order)) :
    StoresRun (unroll body (4 * n) (6 * n)) (6 * (2 * n)) (unitRun packing order) := by
  unfold StoresRun at stores ⊢
  intro src p dst q i
  simp only [unroll, stores]
  by_cases second : q + 6 * n ≤ i ∧ i < q + 6 * n + 6 * n
  · rw [if_pos second, if_pos (by omega)]
    have quotient : p + 4 * n + 4 * ((i - (q + 6 * n)) / 6) = p + 4 * ((i - q) / 6) := by omega
    have remainder : (i - (q + 6 * n)) % 6 = (i - q) % 6 := by omega
    simp only [unitRun, quotient, remainder]
  · rw [if_neg second]
    by_cases first : q ≤ i ∧ i < q + 6 * n
    · rw [if_pos first, if_pos (by omega)]
    · rw [if_neg first, if_neg (by omega)]

theorem convert8_stores (packing : Packing) (order : ChannelOrder) :
    StoresRun (unroll (unroll (convert2 packing order) 4 6) 8 12) 24 (unitRun packing order) :=
  unroll_stores 2 (unroll_stores 1 (convert2_stores packing order))

theorem iyuyv2rgb8_stores : StoresRun iyuyv2rgb8 24 (unitRun .yuyv .rgb) := by
  unfold iyuyv2rgb8 iyuyv2rgb4 iyuyv2rgb2; exact convert8_stores _ _

theorem iuyvy2rgb8_stores : StoresRun iuyvy2rgb8 24 (unitRun .uyvy .rgb) := by
  unfold iuyvy2rgb8 iuyvy2rgb4 iuyvy2rgb2; exact convert8_stores _ _

theorem iuyvy2bgr8_stores : StoresRun iuyvy2bgr8 24 (unitRun .uyvy .bgr) := by
  unfold iuyvy2bgr8 iuyvy2bgr4 iuyvy2bgr2; exact convert8_stores _ _

theorem pick_stores (k : Nat) : StoresRun (pick k) 1 fun src p _ => src (p + k) := by
  intro src p dst q i
  simp only [pick, Function.update_apply]
  by_cases here : i = q
  · simp [here]
  · rw [if_neg here, if_neg (by omega)]

end UvcFrame
