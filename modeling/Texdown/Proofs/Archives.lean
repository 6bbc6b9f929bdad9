import Texdown.Archive.Unzip

/-!
# Reading back what was written

UTF-8 says which text was written (`ofUtf8?_toUtf8`), and an archive of stored entries says which these
are (`unzip?_zip`), as long as the fields of its headers have room for what is written into them. So
nothing is lost in the bytes of an archive, and what holds of its entries holds of what a reader finds.

Results:
* `ofUtf8?_toUtf8`: the bytes of a text are read as this text.
* `unzip?_zip`: the bytes of an archive are read as its entries.
-/
namespace Texdown

namespace Text

/-! ## UTF-8 -/

theorem toNat_byte {n : Nat} (h : n < 256) : (UInt8.ofNat n).toNat = n := by
  rw [UInt8.toNat_ofNat']
  omega

/-- A byte that begins a longer sequence. -/
theorem utf8Units_lead {b more bits low high : Nat} {bs : Bytes} (hb : b < 256)
    (h : utf8Lead? b = some ⟨more + 1, bits, low, high⟩) :
    utf8Units none (UInt8.ofNat b :: bs) = utf8Units (some ⟨bits, more + 1, low, high⟩) bs := by
  rw [utf8Units, utf8Units.start, toNat_byte hb, h]
  simp only [if_neg (Nat.succ_ne_zero more)]

section Continuing

variable {value more low high k : Nat} {bs : Bytes} (hk : k < 64) (hlow : low ≤ 0x80 + k)
  (hhigh : 0x80 + k ≤ high)

include hk hlow hhigh

/-- A byte that continues a sequence adds six bits to its value. -/
theorem utf8Units_more :
    utf8Units (some ⟨value, more + 2, low, high⟩) (UInt8.ofNat (0x80 + k) :: bs)
      = utf8Units (some ⟨value * 64 + k, more + 1, 0x80, 0xbf⟩) bs := by
  rw [utf8Units, toNat_byte (by omega), if_pos ⟨hlow, hhigh⟩, Nat.add_sub_cancel_left,
    if_neg (by simp only; omega)]
  rfl

/-- The last one completes a character. -/
theorem utf8Units_last :
    utf8Units (some ⟨value, 1, low, high⟩) (UInt8.ofNat (0x80 + k) :: bs)
      = some (Char.ofNat (value * 64 + k)) :: utf8Units none bs := by
  rw [utf8Units, toNat_byte (by omega), if_pos ⟨hlow, hhigh⟩, Nat.add_sub_cancel_left, if_pos rfl]

end Continuing

/-- What begins a sequence of three leaves its second byte in range. -/
theorem utf8Lead?_three {n : Nat} (hlow : 0x800 ≤ n) (hhigh : n < 0x10000)
    (hvalid : n < 0xd800 ∨ 0xdfff < n) : ∃ low high,
      utf8Lead? (0xe0 + n / 4096) = some ⟨2, n / 4096, low, high⟩ ∧
        low ≤ 0x80 + n / 64 % 64 ∧ 0x80 + n / 64 % 64 ≤ high := by
  unfold utf8Lead?
  rw [if_neg (by omega), if_neg (by omega), if_neg (by omega)]
  split
  · exact ⟨0xa0, 0xbf, by rw [show n / 4096 = 0 by omega], by omega, by omega⟩
  · split
    · exact ⟨0x80, 0x9f, by rw [show n / 4096 = 0xd by omega], by omega, by omega⟩
    · rw [if_pos (by omega), Nat.add_sub_cancel_left]
      exact ⟨0x80, 0xbf, rfl, by omega, by omega⟩

/-- So does what begins a sequence of four. -/
theorem utf8Lead?_four {n : Nat} (hlow : 0x10000 ≤ n) (hhigh : n < 0x110000) : ∃ low high,
      utf8Lead? (0xf0 + n / 262144) = some ⟨3, n / 262144, low, high⟩ ∧
        low ≤ 0x80 + n / 4096 % 64 ∧ 0x80 + n / 4096 % 64 ≤ high := by
  unfold utf8Lead?
  rw [if_neg (by omega), if_neg (by omega), if_neg (by omega), if_neg (by omega), if_neg (by omega),
    if_neg (by omega)]
  split
  · exact ⟨0x90, 0xbf, by rw [show n / 262144 = 0 by omega], by omega, by omega⟩
  · split
    · rw [Nat.add_sub_cancel_left]
      exact ⟨0x80, 0xbf, rfl, by omega, by omega⟩
    · rw [if_pos (by omega)]
      exact ⟨0x80, 0x8f, by rw [show n / 262144 = 4 by omega], by omega, by omega⟩

/-- The bytes of a character are read as this character. -/
theorem utf8Units_char (c : Char) (bs : Bytes) :
    utf8Units none (utf8Char c ++ bs) = some c :: utf8Units none bs := by
  have hvalid : c.toNat < 0xd800 ∨ 0xdfff < c.toNat ∧ c.toNat < 0x110000 := c.valid
  have hc : Char.ofNat c.toNat = c := Char.ofNat_toNat c
  unfold utf8Char
  generalize c.toNat = n at hvalid hc ⊢
  simp only [Nat.div_one]
  split
  · next h1 =>
    have hlead : utf8Lead? n = some ⟨0, n, 0x80, 0xbf⟩ := by rw [utf8Lead?, if_pos h1]
    rw [List.singleton_append, utf8Units, utf8Units.start, toNat_byte (by omega), hlead]
    simp only [if_true, hc]
  split
  · next h1 h2 =>
    have hlead : utf8Lead? (0xc0 + n / 64) = some ⟨0 + 1, n / 64, 0x80, 0xbf⟩ := by
      unfold utf8Lead?
      rw [if_neg (by omega), if_neg (by omega), if_pos (by omega), Nat.add_sub_cancel_left]
    rw [List.cons_append, utf8Units_lead (by omega) hlead, List.singleton_append,
      utf8Units_last (by omega) (by omega) (by omega), show n / 64 * 64 + n % 64 = n by omega, hc]
  split
  · next h1 h2 h3 =>
    obtain ⟨low, high, hlead, hlow, hhigh⟩ := utf8Lead?_three (n := n) (by omega) (by omega) (by omega)
    rw [List.cons_append, utf8Units_lead (by omega) hlead, List.cons_append,
      utf8Units_more (by omega) hlow hhigh, List.singleton_append,
      utf8Units_last (by omega) (by omega) (by omega),
      show (n / 4096 * 64 + n / 64 % 64) * 64 + n % 64 = n by omega, hc]
  · next h1 h2 h3 =>
    obtain ⟨low, high, hlead, hlow, hhigh⟩ := utf8Lead?_four (n := n) (by omega) (by omega)
    rw [List.cons_append, utf8Units_lead (by omega) hlead, List.cons_append,
      utf8Units_more (by omega) hlow hhigh, List.cons_append,
      utf8Units_more (by omega) (by omega) (by omega), List.singleton_append,
      utf8Units_last (by omega) (by omega) (by omega),
      show ((n / 262144 * 64 + n / 4096 % 64) * 64 + n / 64 % 64) * 64 + n % 64 = n by omega, hc]

/-- The bytes of a text are read as this text. -/
theorem ofUtf8?_toUtf8 (t : Text) : ofUtf8? (toUtf8 t) = some t := by
  have hunits : utf8Units none (toUtf8 t) = t.map some := by
    induction t with
    | nil => rw [toUtf8, List.flatMap_nil, utf8Units, List.map_nil]
    | cons c t ih => rw [toUtf8, List.flatMap_cons, utf8Units_char, List.map_cons, ← ih, toUtf8]
  rw [ofUtf8?, hunits]
  clear hunits
  induction t with
  | nil => rfl
  | cons c t ih => rw [List.map_cons, List.mapM_cons, ih]; rfl

end Text

namespace Archive

/-! ## Archives -/

section Numbers

variable {n width offset : Nat}

/-- A number is read where it was written, if it fits. -/
theorem numberAt_le (h : n < Nat.pow 256 width) (rest : Bytes) :
    numberAt (le width n ++ rest) 0 width = n := by
  rw [numberAt, List.drop_zero, List.take_left' (length_le width n), unle_le width n h]

/-- What stands in front of an offset does not matter. -/
theorem numberAt_append (pre rest : Bytes) (offset width : Nat) :
    numberAt (pre ++ rest) (pre.length + offset) width = numberAt rest offset width := by
  rw [numberAt, ← List.drop_drop, List.drop_left, numberAt]

/-- A number in front is skipped. -/
theorem numberAt_skip (h : width ≤ offset) (rest : Bytes) (other : Nat) :
    numberAt (le width n ++ rest) offset other = numberAt rest (offset - width) other := by
  have hfront := numberAt_append (le width n) rest (offset - width) other
  rwa [length_le, Nat.add_sub_cancel' h] at hfront

end Numbers

namespace Entry

/-- An entry whose data is stored as it is, and whose sizes fit into the fields of its headers. -/
structure Fits (e : Entry) : Prop where
  stored : e.compression = .stored
  name : (Text.toUtf8 e.name).length < 0x10000
  data : e.data.length < 0x100000000
  attributes : e.attributes < 0x100000000

/-- What a local header knows of an entry. -/
def withoutAttributes (e : Entry) : Entry := { e with attributes := 0 }

theorem length_description (e : Entry) : e.description.length = 26 := by
  simp [description, length_le]

theorem Fits.stored_eq {e : Entry} (h : e.Fits) : e.stored = e.data := by rw [Entry.stored, h.stored]

/-- The description of an entry stands at an offset. Both headers have one. -/
structure Described (e : Entry) (data : Bytes) (offset : Nat) : Prop where
  method : numberAt data (offset + 4) 2 = e.compression.method
  size : numberAt data (offset + 14) 4 = e.data.length
  name : numberAt data (offset + 22) 2 = (Text.toUtf8 e.name).length
  extra : numberAt data (offset + 24) 2 = 0

theorem Fits.described {e : Entry} (h : e.Fits) (pre rest : Bytes) :
    e.Described (pre ++ (e.description ++ rest)) pre.length := by
  have hmethod : e.compression.method < Nat.pow 256 2 := by rw [h.stored]; decide
  have hextra : 0 < Nat.pow 256 2 := by decide
  have hfields : e.description ++ rest = le 2 version ++ (le 2 e.flags ++ (le 2 e.compression.method
      ++ (le 2 0 ++ (le 2 date ++ (le 4 e.checksum ++ (le 4 e.data.length ++ (le 4 e.data.length
      ++ (le 2 (Text.toUtf8 e.name).length ++ (le 2 0 ++ rest))))))))) := by
    simp only [description, h.stored_eq, List.append_assoc]
  constructor
  all_goals
    rw [numberAt_append, hfields]
    simp only [numberAt_skip, Nat.reduceLeDiff, Nat.reduceSub]
  · exact numberAt_le hmethod _
  · exact numberAt_le h.data _
  · exact numberAt_le h.name _
  · exact numberAt_le hextra _

end Entry

/-- An entry is read off its local header and the data behind it. -/
theorem local?_file {e : Entry} (h : e.Fits) (rest : Bytes) :
    local? (e.file ++ rest) = some (e.withoutAttributes, rest) := by
  have hfile : e.file ++ rest
      = [0x50, 0x4b, 3, 4] ++ (e.description ++ (Text.toUtf8 e.name ++ (e.data ++ rest))) := by
    simp only [Entry.file, Entry.localHeader, h.stored_eq, List.append_assoc]
  have hread : e.Described (e.file ++ rest) 4 := by
    rw [hfile]
    exact h.described [0x50, 0x4b, 3, 4] _
  have hname : (e.file ++ rest).drop 30 = Text.toUtf8 e.name ++ (e.data ++ rest) := by
    have hheader : ([0x50, 0x4b, 3, 4] ++ e.description).length = 30 := by
      rw [List.length_append, e.length_description]
      rfl
    rw [hfile, ← List.append_assoc, ← hheader, List.drop_left]
  have hbody : (e.file ++ rest).drop (30 + (Text.toUtf8 e.name).length + 0) = e.data ++ rest := by
    rw [Nat.add_zero, ← List.drop_drop, hname, List.drop_left]
  have hsignature : hasSignature [3, 4] (e.file ++ rest) = true := rfl
  unfold local?
  simp only [hread.method, hread.size, hread.name, hread.extra, hsignature, hname, hbody, h.stored,
    List.take_left, List.drop_left, Text.ofUtf8?_toUtf8]
  simp only [beq_self_eq_true, Bool.and_self, if_true, Option.map_some, Entry.withoutAttributes,
    h.stored]

/-- Behind the entries no entry begins. -/
theorem local?_directory (offset : Nat) (es : List Entry) (count size start : Nat) :
    local? (directory offset es ++ endRecord count size start) = none := by
  have hsignature : hasSignature [3, 4] (directory offset es ++ endRecord count size start) = false := by
    cases es <;> rfl
  unfold local?
  simp only [hsignature, Bool.false_and, Bool.false_eq_true, if_false]

theorem locals_files {es : List Entry} (h : ∀ e ∈ es, e.Fits) {tail : Bytes} (ht : local? tail = none)
    {fuel : Nat} (hfuel : es.length ≤ fuel) :
    locals fuel (es.flatMap Entry.file ++ tail) = (es.map Entry.withoutAttributes, tail) := by
  induction es generalizing fuel with
  | nil =>
    cases fuel with
    | zero => rfl
    | succ fuel => simp only [List.flatMap_nil, List.nil_append, locals, ht, List.map_nil]
  | cons e es ih =>
    obtain ⟨fuel, rfl⟩ : ∃ k, fuel = k + 1 := ⟨fuel - 1, by rw [List.length_cons] at hfuel; omega⟩
    have hrest := ih (fun e he => h e (List.mem_cons_of_mem _ he)) (Nat.le_of_succ_le_succ hfuel)
    rw [List.flatMap_cons, List.append_assoc, locals, local?_file (h e List.mem_cons_self)]
    simp only [hrest, List.map_cons]

/-- What a central record says of the comment, the attributes and the place of an entry. -/
def Entry.belongings (e : Entry) (offset : Nat) : Bytes :=
  le 2 0 ++ (le 2 0 ++ (le 2 0 ++ (le 4 e.attributes ++ le 4 offset)))

/-- The attributes of an entry are read off its central record. -/
theorem withAttributes?_record {e : Entry} (h : e.Fits) (offset : Nat) (es : List Entry) (rest : Bytes) :
    withAttributes? (e.withoutAttributes :: es) (e.centralRecord offset ++ rest)
      = (withAttributes? es rest).map (e :: ·) := by
  obtain ⟨front, hfront, hrecord⟩ : ∃ front : Bytes, front.length = 6 ∧
      e.centralRecord offset ++ rest
        = front ++ (e.description ++ (e.belongings offset ++ (Text.toUtf8 e.name ++ rest))) :=
    ⟨[0x50, 0x4b, 1, 2, UInt8.ofNat Entry.version, 3], rfl, by
      simp only [Entry.centralRecord, Entry.belongings, List.append_assoc]⟩
  have hhead : (front ++ e.description).length = 32 := by
    rw [List.length_append, hfront, e.length_description]
  have hread : e.Described (e.centralRecord offset ++ rest) 6 := by
    rw [hrecord, ← hfront]
    exact h.described _ _
  have hbehind : ∀ place width, numberAt (e.centralRecord offset ++ rest) (32 + place) width
      = numberAt (e.belongings offset ++ (Text.toUtf8 e.name ++ rest)) place width :=
    fun place width => by rw [hrecord, ← List.append_assoc, ← hhead, numberAt_append]
  have hcomment : numberAt (e.centralRecord offset ++ rest) 32 2 = 0 := by
    have hzero : 0 < Nat.pow 256 2 := by decide
    rw [hbehind 0, Entry.belongings, List.append_assoc, numberAt_le hzero]
  have hattributes : numberAt (e.centralRecord offset ++ rest) 38 4 = e.attributes := by
    rw [hbehind 6, Entry.belongings]
    simp only [List.append_assoc, numberAt_skip, Nat.reduceLeDiff, Nat.reduceSub]
    exact numberAt_le h.attributes _
  have hdrop : (e.centralRecord offset ++ rest).drop (46 + (Text.toUtf8 e.name).length) = rest := by
    have hheader : (front ++ e.description ++ e.belongings offset).length = 46 := by
      rw [List.length_append, hhead]
      simp [Entry.belongings, length_le]
    rw [hrecord, ← List.append_assoc, ← List.append_assoc, ← List.drop_drop, ← hheader, List.drop_left,
      List.drop_left]
  have hsignature : hasSignature [1, 2] (e.centralRecord offset ++ rest) = true := rfl
  rw [withAttributes?]
  simp only [hsignature, if_true, hread.name, hread.extra, hcomment, hattributes, Nat.add_zero, hdrop]
  rfl

theorem withAttributes?_directory {es : List Entry} (h : ∀ e ∈ es, e.Fits)
    (offset count size start : Nat) :
    withAttributes? (es.map Entry.withoutAttributes)
      (directory offset es ++ endRecord count size start) = some es := by
  induction es generalizing offset with
  | nil => rfl
  | cons e es ih =>
    rw [List.map_cons, directory, List.append_assoc, withAttributes?_record (h e List.mem_cons_self),
      ih fun e he => h e (List.mem_cons_of_mem _ he)]
    rfl

/-- The bytes of an archive are read as its entries, if they are stored and fit into it. -/
theorem unzip?_zip {es : List Entry} (h : ∀ e ∈ es, e.Fits) : unzip? (zip es) = some es := by
  have hlength : es.length ≤ (es.flatMap Entry.file).length := by
    clear h
    induction es with
    | nil => exact Nat.le_refl 0
    | cons e es ih =>
      have hfile : 1 ≤ e.file.length := by simp [Entry.file, Entry.localHeader]
      simp only [List.length_cons, List.flatMap_cons, List.length_append]
      omega
  have hfuel : es.length ≤ (zip es).length := by
    simp only [zip, List.length_append]
    omega
  have hlocals := locals_files h
    (local?_directory 0 es es.length (directory 0 es).length (es.flatMap Entry.file).length) hfuel
  rw [← List.append_assoc] at hlocals
  have hread : locals (zip es).length (zip es) = (es.map Entry.withoutAttributes, _) := hlocals
  simp only [unzip?, hread]
  exact withAttributes?_directory h 0 _ _ _

end Archive
end Texdown
