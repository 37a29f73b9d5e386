import Mathlib
import WhitespaceBench.Proofs.ConfigHistory
import WhitespaceBench.Proofs.LossySegments

namespace WhitespaceBench

/-!
# Where the lenient and the strict view agree

Encoding a text and reading the bytes leniently gives the text back, since the division of
the bytes into encoded characters is their only division.  It follows that the lenient view
of some bytes is encoded as these bytes exactly if they encode some text.  Those are the
files that can be read as text, and what is read is then the lenient view; everything else
is refused, also where a configuration is loaded.
-/

namespace Text.Utf8

/-- Bytes that encode some text. -/
def IsWellFormed (bytes : List UInt8) : Prop :=
  exists text, encode text = bytes

/-- Encoded text is divided into its characters. -/
theorem divides_encode (text : List Char) :
    Divides (encode text)
      (text.map fun character => ⟨String.utf8EncodeChar character, character⟩) := by
  induction text with
  | nil => exact .nil
  | cons character text ih => exact .cons (.encoded character _) ih

@[simp] theorem lossy_encode (text : List Char) : lossy (encode text) = text := by
  rw [← (divides_encode text).map_character, List.map_map]
  exact List.map_id text

@[simp] theorem encode_lossy_iff (bytes : List UInt8) :
    encode (lossy bytes) = bytes <-> IsWellFormed bytes := by
  constructor
  · exact fun same => ⟨lossy bytes, same⟩
  · rintro ⟨text, rfl⟩
    rw [lossy_encode]

instance (bytes : List UInt8) : Decidable (IsWellFormed bytes) :=
  decidable_of_iff _ (encode_lossy_iff bytes)

/-- Strict decoding inverts encoding, and fails on everything that was not encoded. -/
theorem decode?_eq_some_iff {bytes : List UInt8} {text : List Char} :
    decode? bytes = some text <-> encode text = bytes := by
  constructor
  · intro decoded
    rcases Option.map_eq_some_iff.mp decoded with ⟨read, valid, rfl⟩
    rw [String.fromUTF8?] at valid
    split at valid
    · rename_i isValid
      cases valid
      have encoded := String.utf8Encode_toList (b := String.fromUTF8 bytes.toByteArray isValid)
      exact List.toByteArray_inj.mp encoded
    · cases valid
  · rintro rfl
    exact decode?_encode text

theorem decode?_of_isWellFormed {bytes : List UInt8} (wellFormed : IsWellFormed bytes) :
    decode? bytes = some (lossy bytes) :=
  decode?_eq_some_iff.mpr ((encode_lossy_iff bytes).mpr wellFormed)

theorem decode?_of_not_isWellFormed {bytes : List UInt8} (illFormed : Not (IsWellFormed bytes)) :
    decode? bytes = none :=
  Option.eq_none_iff_forall_ne_some.mpr fun text decoded =>
    illFormed ⟨text, decode?_eq_some_iff.mp decoded⟩

end Text.Utf8

namespace Store

open Text.Utf8

variable {store : Store} {path : String} {bytes : List UInt8}

/-- A file is read as text exactly if its bytes are well formed, and then as their lenient
view. -/
theorem readText_of_read (held : store.read path = .ok bytes) :
    store.readText path = if IsWellFormed bytes then .ok (lossy bytes) else .error .notText := by
  rw [readText, held]
  dsimp only
  by_cases wellFormed : IsWellFormed bytes
  · rw [if_pos wellFormed, decode?_of_isWellFormed wellFormed]
  · rw [if_neg wellFormed, decode?_of_not_isWellFormed wellFormed]

end Store

namespace ConfigFile

open Text.Utf8

/-- A configuration file is refused as no text exactly if its bytes are ill-formed. -/
theorem load_eq_notText_iff {file : ConfigFile} {store : Store} {bytes : List UInt8}
    (held : store.read file.path = .ok bytes) (defaults : Defaults) :
    file.load defaults store = .error (.file .notText) <-> Not (IsWellFormed bytes) := by
  rw [load, if_pos (Store.holds_of_read held), Store.readText_of_read held]
  by_cases wellFormed : IsWellFormed bytes
  · rw [if_pos wellFormed]
    dsimp only
    split <;> simp [wellFormed]
  · rw [if_neg wellFormed]
    simp [wellFormed]

end ConfigFile

namespace Text.Utf8

/-- The lenient view undoes encoding.  Encoding undoes the lenient view exactly on well-formed
bytes, which are those that a file can be read as text from, and on its own encoding the
lenient view changes nothing. -/
theorem encode_lossy_wellFormed (text : List Char) (bytes : List UInt8) :
    lossy (encode text) = text ∧
      (encode (lossy bytes) = bytes <-> IsWellFormed bytes) ∧
      lossy (encode (lossy bytes)) = lossy bytes ∧
      forall (store : Store) (file : ConfigFile), store.read file.path = .ok bytes ->
        store.readText file.path =
          (if IsWellFormed bytes then .ok (lossy bytes) else .error .notText) ∧
        forall defaults, file.load defaults store = .error (.file .notText) <->
          Not (IsWellFormed bytes) := by
  refine ⟨lossy_encode text, encode_lossy_iff bytes, lossy_encode _, fun store file held => ?_⟩
  exact ⟨Store.readText_of_read held, ConfigFile.load_eq_notText_iff held⟩

/-- A replacement that was really encoded is well formed, and a surrogate behind it is not. -/
theorem encode_lossy_wellFormed_replacement :
    let bytes : List UInt8 := [0xEF, 0xBF, 0xBD, 0xED, 0xA0, 0x80]
    let store := Store.empty.put [Config.fileName] (.file bytes)
    store.read ConfigFile.standard.path = .ok bytes ∧
      lossy (encode (lossy bytes)) = [replacement, replacement, replacement, replacement] ∧
      Not (IsWellFormed bytes) ∧ IsWellFormed (bytes.take 3) ∧
      store.readText ConfigFile.standard.path = .error .notText := by
  intro bytes store
  have leads := ConfigFile.leadsTo_standard
  have held : store.read ConfigFile.standard.path = .ok bytes :=
    (leads.put _).read (Store.node?_put_self _ leads.inner _)
  have illFormed : Not (IsWellFormed bytes) := by decide
  rcases encode_lossy_wellFormed [] bytes with ⟨_, _, same, reads⟩
  refine ⟨held, same.trans (by decide), illFormed, by decide, ?_⟩
  rw [(reads store ConfigFile.standard held).1, if_neg illFormed]

end Text.Utf8
end WhitespaceBench
