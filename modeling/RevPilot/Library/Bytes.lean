import RevPilot.Library.Json
import Mathlib.Data.List.Basic

/-! Byte strings: UTF-8, hexadecimal digests, base64 and the keystream of a block function. -/
namespace RevPilot.Library.Bytes

section texts

/-- `s.encode("utf-8")`. -/
def utf8 (s : String) : List UInt8 := s.toList.flatMap String.utf8EncodeChar

/-- `bs.decode("utf-8")`. -/
def decodeUtf8 (bs : List UInt8) : Option String := String.fromUTF8? bs.toByteArray

theorem utf8_toByteArray (s : String) : (utf8 s).toByteArray = s.toByteArray := by
  rw [← String.utf8Encode_toList]
  rfl

theorem utf8_append (s t : String) : utf8 (s ++ t) = utf8 s ++ utf8 t := by
  rw [utf8,String.toList_append,List.flatMap_append]
  rfl

theorem utf8_injective : Function.Injective utf8 := by
  intro s t same
  have bytes := congrArg List.toByteArray same
  rw [utf8_toByteArray,utf8_toByteArray] at bytes
  exact String.toByteArray_inj.mp bytes

theorem decodeUtf8_utf8 (s : String) : decodeUtf8 (utf8 s) = some s := by
  rw [decodeUtf8,utf8_toByteArray]
  unfold String.fromUTF8?
  rw [dif_pos s.isValidUTF8]
  rfl

/-- A text begins with another one if its bytes begin with the other's. -/
theorem prefix_of_utf8 {s t : String} (inside : utf8 s <+: utf8 t) : s.toList <+: t.toList := by
  obtain ⟨rest,whole⟩ := inside
  have bytes := congrArg List.toByteArray whole
  rw [List.toByteArray_append] at bytes
  exact List.isPrefix_of_utf8Encode_append_eq_utf8Encode rest.toByteArray bytes

/-- The text of ASCII bytes. -/
def ofAscii (bs : List UInt8) : String := String.ofList (bs.map fun b => Char.ofNat b.toNat)

theorem utf8_ascii {b : UInt8} (ascii : b.toNat < 128) : String.utf8EncodeChar (Char.ofNat b.toNat) = [b] := by
  have all : ∀ n < 128, String.utf8EncodeChar (Char.ofNat n) = [UInt8.ofNat n] := by decide
  rw [all b.toNat ascii,UInt8.ofNat_toNat]

theorem utf8_ofAscii {bs : List UInt8} (ascii : ∀ b ∈ bs, b.toNat < 128) : utf8 (ofAscii bs) = bs := by
  rw [utf8,ofAscii,String.toList_ofList]
  induction bs with
  | nil => rfl
  | cons b bs ih =>
    rw [List.map_cons,List.flatMap_cons,utf8_ascii (ascii b (List.mem_cons_self ..)),
      ih (fun c inside => ascii c (List.mem_cons_of_mem b inside))]
    rfl

/-- `digest.hex()`. -/
def hex (bs : List UInt8) : String :=
  String.ofList (bs.flatMap fun b => [JsonText.hexDigit (b.toNat / 16),JsonText.hexDigit (b.toNat % 16)])

theorem hexDigit_injective : ∀ m < 16, ∀ n < 16, JsonText.hexDigit m = JsonText.hexDigit n → m = n := by decide

theorem hexDigit_ascii : ∀ n < 16, (JsonText.hexDigit n).toNat < 128 := by decide

theorem hex_injective : Function.Injective hex := by
  intro as bs same
  replace same := String.ofList_injective same
  induction as generalizing bs with
  | nil =>
    cases bs with
    | nil => rfl
    | cons b bs => cases same
  | cons a as ih =>
    cases bs with
    | nil => cases same
    | cons b bs =>
      simp only [List.flatMap_cons,List.cons_append,List.nil_append,List.cons.injEq] at same
      obtain ⟨high,low,rest⟩ := same
      have bound (x : UInt8) := x.toNat_lt
      have highs := hexDigit_injective _ (by have := bound a; omega) _ (by have := bound b; omega) high
      have lows := hexDigit_injective _ (Nat.mod_lt _ (by decide)) _ (Nat.mod_lt _ (by decide)) low
      rw [ih rest,UInt8.toNat_inj.mp (by omega : a.toNat = b.toNat)]

/-- What holds of every digit holds of a digest. -/
theorem hex_all {P : Char → Prop} (each : ∀ n < 16, P (JsonText.hexDigit n)) (bs : List UInt8) :
    ∀ c ∈ (hex bs).toList, P c := by
  intro c inside
  rw [hex,String.toList_ofList] at inside
  obtain ⟨b,_,digit⟩ := List.mem_flatMap.mp inside
  have bound := b.toNat_lt
  rcases List.mem_pair.mp digit with rfl | rfl
  · exact each _ (by omega)
  · exact each _ (Nat.mod_lt _ (by decide))

theorem hex_length (bs : List UInt8) : (hex bs).toList.length = 2 * bs.length := by
  rw [hex,String.toList_ofList]
  induction bs with
  | nil => rfl
  | cons b bs ih =>
    rw [List.flatMap_cons,List.length_append,ih]
    simp only [List.length_cons,List.length_nil]
    omega

theorem hex_ascii (bs : List UInt8) : Text.isAscii (hex bs) = true := by
  rw [Text.isAscii,List.all_eq_true]
  intro c inside
  exact decide_eq_true (hex_all (P := fun c => c.toNat < 128) hexDigit_ascii bs c inside)

end texts

section base64

/-- The letter of a sextet. -/
def letter (v : Nat) : UInt8 :=
  if v < 26 then UInt8.ofNat (v + 65)
  else if v < 52 then UInt8.ofNat (v + 71)
  else if v < 62 then UInt8.ofNat (v - 4)
  else if v = 62 then 43
  else 47

/-- The sextet of a letter. -/
def sextet? (c : UInt8) : Option Nat :=
  let n := c.toNat
  if 65 ≤ n ∧ n ≤ 90 then some (n - 65)
  else if 97 ≤ n ∧ n ≤ 122 then some (n - 71)
  else if 48 ≤ n ∧ n ≤ 57 then some (n + 4)
  else if n = 43 then some 62
  else if n = 47 then some 63
  else none

/-- `base64.b64encode(bs)`. -/
def b64encode : List UInt8 → List UInt8
  | [] => []
  | [a] => [letter (a.toNat / 4),letter (a.toNat % 4 * 16),61,61]
  | [a,b] => [letter (a.toNat / 4),letter (a.toNat % 4 * 16 + b.toNat / 16),letter (b.toNat % 16 * 4),61]
  | a :: b :: c :: rest =>
    letter (a.toNat / 4) :: letter (a.toNat % 4 * 16 + b.toNat / 16) :: letter (b.toNat % 16 * 4 + c.toNat / 64) ::
      letter (c.toNat % 64) :: b64encode rest

/-- The rest of a lenient decoding, with the letters read of the quad, the bits left of them and the
padding in front; a full padding ends the text, other bytes outside the alphabet are skipped. -/
def decodeFrom (quad bits pads : Nat) : List UInt8 → Option (List UInt8)
  | [] => if quad = 0 then some [] else none
  | c :: cs =>
    if c = 61 then
      if quad < 2 then decodeFrom quad bits pads cs
      else if 4 ≤ quad + (pads + 1) then some []
      else decodeFrom quad bits (pads + 1) cs
    else
      match sextet? c, quad with
      | none, _ => decodeFrom quad bits pads cs
      | some v, 0 => decodeFrom 1 v 0 cs
      | some v, 1 => (decodeFrom 2 (v % 16) 0 cs).map (UInt8.ofNat (bits * 4 + v / 16) :: ·)
      | some v, 2 => (decodeFrom 3 (v % 4) 0 cs).map (UInt8.ofNat (bits * 16 + v / 4) :: ·)
      | some v, _ => (decodeFrom 0 0 0 cs).map (UInt8.ofNat (bits * 64 + v) :: ·)

/-- `base64.b64decode(cs)`. -/
def b64decode (cs : List UInt8) : Option (List UInt8) := decodeFrom 0 0 0 cs

theorem letter_spec : ∀ v < 64, letter v ≠ 61 ∧ sextet? (letter v) = some v ∧ (letter v).toNat < 128 := by decide

section letters
variable {v : Nat} (small : v < 64) (bits pads : Nat) (cs : List UInt8)
include small

theorem decodeFrom_first : decodeFrom 0 bits pads (letter v :: cs) = decodeFrom 1 v 0 cs := by
  obtain ⟨other,value,_⟩ := letter_spec v small
  simp only [decodeFrom,other,if_false,value]

theorem decodeFrom_second : decodeFrom 1 bits pads (letter v :: cs) =
    (decodeFrom 2 (v % 16) 0 cs).map (UInt8.ofNat (bits * 4 + v / 16) :: ·) := by
  obtain ⟨other,value,_⟩ := letter_spec v small
  simp only [decodeFrom,other,if_false,value]

theorem decodeFrom_third : decodeFrom 2 bits pads (letter v :: cs) =
    (decodeFrom 3 (v % 4) 0 cs).map (UInt8.ofNat (bits * 16 + v / 4) :: ·) := by
  obtain ⟨other,value,_⟩ := letter_spec v small
  simp only [decodeFrom,other,if_false,value]

theorem decodeFrom_fourth : decodeFrom 3 bits pads (letter v :: cs) =
    (decodeFrom 0 0 0 cs).map (UInt8.ofNat (bits * 64 + v) :: ·) := by
  obtain ⟨other,value,_⟩ := letter_spec v small
  simp only [decodeFrom,other,if_false,value]

end letters

theorem ofNat_eq {n : Nat} {a : UInt8} (same : n = a.toNat) : UInt8.ofNat n = a := by
  rw [same,UInt8.ofNat_toNat]

theorem b64decode_encode (bs : List UInt8) : b64decode (b64encode bs) = some bs := by
  have bound (x : UInt8) := x.toNat_lt
  unfold b64decode
  fun_induction b64encode bs with
  | case1 => rfl
  | case2 a =>
    have := bound a
    rw [decodeFrom_first (by omega),decodeFrom_second (by omega),ofNat_eq (a := a) (by omega)]
    rfl
  | case3 a b =>
    have := bound a
    have := bound b
    rw [decodeFrom_first (by omega),decodeFrom_second (by omega),decodeFrom_third (by omega),ofNat_eq (a := a) (by omega),
      ofNat_eq (a := b) (by omega)]
    rfl
  | case4 a b c rest ih =>
    have := bound a
    have := bound b
    have := bound c
    rw [decodeFrom_first (by omega),decodeFrom_second (by omega),decodeFrom_third (by omega),decodeFrom_fourth (by omega),
      ih,ofNat_eq (a := a) (by omega),ofNat_eq (a := b) (by omega),ofNat_eq (a := c) (by omega)]
    rfl

/-- What holds of the padding and of every letter holds of an encoding. -/
theorem b64encode_all {P : UInt8 → Prop} (pad : P 61) (each : ∀ v < 64, P (letter v)) (bs : List UInt8) :
    ∀ c ∈ b64encode bs, P c := by
  have bound (x : UInt8) := x.toNat_lt
  fun_induction b64encode bs with
  | case1 => nofun
  | case2 a =>
    have := bound a
    simp only [List.mem_cons,List.not_mem_nil,or_false]
    rintro c (rfl | rfl | rfl | rfl)
    exacts [each _ (by omega),each _ (by omega),pad,pad]
  | case3 a b =>
    have := bound a
    have := bound b
    simp only [List.mem_cons,List.not_mem_nil,or_false]
    rintro c (rfl | rfl | rfl | rfl)
    exacts [each _ (by omega),each _ (by omega),each _ (by omega),pad]
  | case4 a b c rest ih =>
    have := bound a
    have := bound b
    have := bound c
    simp only [List.mem_cons]
    rintro d (rfl | rfl | rfl | rfl | inside)
    exacts [each _ (by omega),each _ (by omega),each _ (by omega),each _ (by omega),ih d inside]

theorem b64encode_ascii (bs : List UInt8) : ∀ c ∈ b64encode bs, c.toNat < 128 :=
  b64encode_all (by decide) (fun v small => (letter_spec v small).2.2) bs

/-- `-` and `_` stand for `+` and `/`. -/
def toUrlsafe (c : UInt8) : UInt8 := if c = 43 then 45 else if c = 47 then 95 else c

def ofUrlsafe (c : UInt8) : UInt8 := if c = 45 then 43 else if c = 95 then 47 else c

/-- `base64.urlsafe_b64encode(bs)`. -/
def urlsafeEncode (bs : List UInt8) : List UInt8 := (b64encode bs).map toUrlsafe

/-- `base64.urlsafe_b64decode(cs)`. -/
def urlsafeDecode (cs : List UInt8) : Option (List UInt8) := b64decode (cs.map ofUrlsafe)

theorem ofUrlsafe_letter : ∀ v < 64, ofUrlsafe (toUrlsafe (letter v)) = letter v := by decide

theorem toUrlsafe_letter : ∀ v < 64, (toUrlsafe (letter v)).toNat < 128 ∧ toUrlsafe (letter v) ≠ 46 := by decide

theorem urlsafeDecode_encode (bs : List UInt8) : urlsafeDecode (urlsafeEncode bs) = some bs := by
  have back : ((b64encode bs).map toUrlsafe).map ofUrlsafe = b64encode bs := by
    rw [List.map_map]
    calc
      (b64encode bs).map (ofUrlsafe ∘ toUrlsafe) = (b64encode bs).map id :=
        List.map_congr_left (b64encode_all (P := fun c => ofUrlsafe (toUrlsafe c) = c) (by decide) ofUrlsafe_letter bs)
      _ = b64encode bs := List.map_id _
  rw [urlsafeDecode,urlsafeEncode,back,b64decode_encode]

/-- URL-safe text is ASCII without a dot. -/
theorem urlsafeEncode_plain (bs : List UInt8) : ∀ c ∈ urlsafeEncode bs, c.toNat < 128 ∧ c ≠ 46 := by
  intro c inside
  obtain ⟨b,letter,rfl⟩ := List.mem_map.mp inside
  exact b64encode_all (P := fun c => (toUrlsafe c).toNat < 128 ∧ toUrlsafe c ≠ 46) (by decide) toUrlsafe_letter bs b letter

end base64

section keystream
variable {n : Nat}

def xorBytes (data key : List UInt8) : List UInt8 := List.zipWith (· ^^^ ·) data key

/-- The bytes of a text under a keystream of blocks, whose index stays below the limit. Each block serves the
first bytes left, up to its length. -/
def xorStream (limit : Nat) (block : Nat → Vector UInt8 n) : Nat → Nat → List UInt8 → Option (List UInt8)
  | 0, _, _ => some []
  | fuel + 1, index, data =>
    if data = [] then some []
    else if limit ≤ index then none
    else (xorStream limit block fuel (index + 1) (data.drop n)).map (xorBytes data (block index).toList ++ ·)

theorem xorBytes_twice : ∀ {data key : List UInt8}, data.length ≤ key.length → xorBytes (xorBytes data key) key = data
  | [], _, _ => rfl
  | _ :: _, [], long => absurd long (Nat.not_succ_le_zero _)
  | a :: data, k :: key, long => by
    have rest := xorBytes_twice (Nat.le_of_succ_le_succ long)
    rw [xorBytes,xorBytes,List.zipWith_cons_cons,List.zipWith_cons_cons,UInt8.xor_assoc,UInt8.xor_self,UInt8.xor_zero]
    exact congrArg (a :: ·) rest

theorem xorBytes_length (data key : List UInt8) : (xorBytes data key).length = min data.length key.length :=
  List.length_zipWith

/-- The bytes behind the key play no part. -/
theorem xorBytes_take (data key : List UInt8) : xorBytes data key = xorBytes (data.take key.length) key := by
  induction key generalizing data with
  | nil =>
    rw [xorBytes,xorBytes,List.zipWith_nil_right,List.zipWith_nil_right]
  | cons k key ih =>
    cases data with
    | nil => rfl
    | cons a data =>
      have rest := ih data
      rw [xorBytes,xorBytes] at rest
      rw [xorBytes,xorBytes,List.length_cons,List.take_succ_cons,List.zipWith_cons_cons,List.zipWith_cons_cons,← rest]

theorem xorBytes_key_injective {data key key' : List UInt8} (size : data.length = key.length)
    (size' : data.length = key'.length) (same : xorBytes data key = xorBytes data key') : key = key' := by
  induction data generalizing key key' with
  | nil =>
    rw [List.length_eq_zero_iff.mp size.symm,List.length_eq_zero_iff.mp size'.symm]
  | cons a data ih =>
    cases key with
    | nil => cases size
    | cons k key =>
      cases key' with
      | nil => cases size'
      | cons k' key' =>
        rw [xorBytes,xorBytes,List.zipWith_cons_cons,List.zipWith_cons_cons] at same
        obtain ⟨first,rest⟩ := List.cons.inj same
        rw [ih (Nat.succ_injective size) (Nat.succ_injective size') rest,(UInt8.xor_right_inj a).mp first]

variable {limit : Nat} {block : Nat → Vector UInt8 n}

/-- The keystream reaches exactly the texts that its blocks cover. -/
theorem xorStream_isSome (positive : 0 < n) {fuel index : Nat} {data : List UInt8} (enough : data.length ≤ fuel) :
    (xorStream limit block fuel index data).isSome ↔ data.length ≤ n * (limit - index) := by
  induction fuel generalizing index data with
  | zero =>
    rw [List.length_eq_zero_iff.mp (Nat.le_zero.mp enough)]
    exact iff_of_true rfl (Nat.zero_le _)
  | succ fuel ih =>
    rw [xorStream]
    by_cases bare : data = []
    · rw [if_pos bare,bare]
      exact iff_of_true rfl (Nat.zero_le _)
    · have nonempty := List.length_pos_iff.mpr bare
      rw [if_neg bare]
      by_cases spent : limit ≤ index
      · rw [if_pos spent,Nat.sub_eq_zero_of_le spent,Nat.mul_zero]
        exact iff_of_false nofun (Nat.not_le.mpr nonempty)
      · have next : limit - index = (limit - (index + 1)) + 1 := by omega
        have short : (data.drop n).length ≤ fuel := by
          rw [List.length_drop]
          omega
        rw [if_neg spent,Option.isSome_map,ih short,List.length_drop,next,Nat.mul_add,Nat.mul_one,Nat.sub_le_iff_le_add]

theorem xorStream_length {fuel index : Nat} {data out : List UInt8} (enough : data.length ≤ fuel)
    (positive : 0 < n) (ok : xorStream limit block fuel index data = some out) : out.length = data.length := by
  induction fuel generalizing index data out with
  | zero =>
    rw [List.length_eq_zero_iff.mp (Nat.le_zero.mp enough)]
    cases ok
    rfl
  | succ fuel ih =>
    rw [xorStream] at ok
    split_ifs at ok with bare spent
    · cases ok
      rw [bare]
    · obtain ⟨rest,more,rfl⟩ := Option.map_eq_some_iff.mp ok
      have nonempty := List.length_pos_iff.mpr bare
      have short : (data.drop n).length ≤ fuel := by
        rw [List.length_drop]
        omega
      rw [List.length_append,ih short more,xorBytes_length,Vector.length_toList,List.length_drop]
      omega

/-- The keystream takes its own output back to the text. -/
theorem xorStream_twice {fuel index : Nat} {data out : List UInt8} (enough : data.length ≤ fuel)
    (positive : 0 < n) (ok : xorStream limit block fuel index data = some out) :
    xorStream limit block fuel index out = some data := by
  induction fuel generalizing index data out with
  | zero =>
    rw [List.length_eq_zero_iff.mp (Nat.le_zero.mp enough)]
    rfl
  | succ fuel ih =>
    have size := xorStream_length enough positive ok
    rw [xorStream] at ok
    split_ifs at ok with bare spent
    · cases ok
      rw [bare]
      rfl
    · obtain ⟨rest,more,rfl⟩ := Option.map_eq_some_iff.mp ok
      have nonempty := List.length_pos_iff.mpr bare
      have bare' : xorBytes data (block index).toList ++ rest ≠ [] := by
        rw [← List.length_pos_iff,size]
        exact nonempty
      have short : (data.drop n).length ≤ fuel := by
        rw [List.length_drop]
        omega
      have tail := xorStream_length short positive more
      rw [List.length_drop] at tail
      have head : (xorBytes data (block index).toList).length = min data.length n := by
        rw [xorBytes_length,Vector.length_toList]
      have cut : (xorBytes data (block index).toList ++ rest).drop n = rest ∧
          (xorBytes data (block index).toList ++ rest).take n = xorBytes data (block index).toList := by
        rcases Nat.le_total n data.length with full | part
        · have exactly_n : (xorBytes data (block index).toList).length = n := by omega
          exact ⟨List.drop_left' exactly_n,List.take_left' exactly_n⟩
        · have nothing : rest = [] := List.length_eq_zero_iff.mp (by omega)
          rw [nothing,List.append_nil]
          exact ⟨List.drop_of_length_le (by omega),List.take_of_length_le (by omega)⟩
      have whole : xorBytes (xorBytes data (block index).toList ++ rest) (block index).toList = data.take n := by
        have first : (data.take n).length ≤ (block index).toList.length := by
          rw [List.length_take,Vector.length_toList]
          exact Nat.min_le_left n _
        rw [xorBytes_take,Vector.length_toList,cut.2,xorBytes_take data,Vector.length_toList,xorBytes_twice first]
      rw [xorStream,if_neg bare',if_neg spent,cut.1,ih short more,Option.map_some,whole,List.take_append_drop]

/-- A text of one block is masked by the first block. -/
theorem xorStream_block (positive : 0 < n) {fuel : Nat} {data : List UInt8} (size : data.length = n)
    (enough : 0 < fuel) (blocks : 0 < limit) :
    xorStream limit block fuel 0 data = some (xorBytes data (block 0).toList) := by
  cases fuel with
  | zero => cases enough
  | succ fuel =>
    have bare : data ≠ [] := List.length_pos_iff.mp (size ▸ positive)
    have nothing : data.drop n = [] := List.drop_of_length_le size.le
    rw [xorStream,if_neg bare,if_neg (Nat.not_le.mpr blocks),nothing]
    cases fuel with
    | zero => simp [xorStream]
    | succ fuel => simp [xorStream]

end keystream
end RevPilot.Library.Bytes
