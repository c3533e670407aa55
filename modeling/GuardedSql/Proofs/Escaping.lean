import GuardedSql.Proofs.Result
import GuardedSql.Store.Connection
import Mathlib.Data.List.TakeWhile

/-! What an escaped body is, given what the drivers do. A driver may answer anything; here stands
what it has to answer for a body to be the one of its store's mode. For PostgreSQL this is said of
the text that the client's bytes are read as, which need not be the one that they were written
for. It holds of the client that escapes as it is documented, over an encoding that writes quotes
and backslashes as themselves and nothing else with their bytes. -/

namespace GuardedSql

/-- A text that the driver escapes for MySQL is escaped as the mode has it. -/
def Client.EscapesText (client : Client) (backslashes marked : Bool) : Prop :=
  ∀ t body, client.escapeText backslashes marked t = .ok body →
    body = (Mode.mysql backslashes).bodyOf t

/-- The bytes that the client escapes for PostgreSQL are read as what they were read as before,
escaped as the mode has it. This fails over an encoding that reads as a backslash, or a quote, what
the client does not take for one. -/
def Client.EscapesBytes (client : Client) (standardStrings : Bool) : Prop :=
  ∀ codec, client.codec = .ok codec → ∀ t raw escaped body, codec.encode t = .ok raw →
    client.escapeBytes standardStrings raw = .ok escaped → codec.decode escaped = .ok body →
    ∃ u, codec.decode raw = .ok u ∧ body = (Mode.postgres standardStrings).bodyOf u

namespace Connection

/-- What a connection relies on its driver for. -/
def Escapes (conn : Connection) (marked : Bool) : Prop :=
  match conn.mode with
  | .sqlite => True
  | .mysql backslashes => conn.client.EscapesText backslashes marked
  | .postgres standardStrings => conn.client.EscapesBytes standardStrings

/-- The same for the texts among values. -/
def EscapesAll (conn : Connection) (values : List Value) : Prop :=
  ∀ v ∈ values, v.text?.isSome = true → conn.Escapes v.isMarkup

/-- What a text is after it was written in the client's encoding and read again, if it is written
at all. -/
def ReadsBack (conn : Connection) (t u : Text) : Prop :=
  match conn.mode with
  | .sqlite | .mysql _ => u = t
  | .postgres _ => ∃ codec raw, conn.client.codec = .ok codec ∧ codec.encode t = .ok raw ∧
      codec.decode raw = .ok u

end Connection

theorem Client.escapeEncoded_eq_ok {client : Client} {standardStrings : Bool} {t body : Text}
    (h : client.escapeEncoded standardStrings t = .ok body) :
    ∃ codec raw escaped, client.codec = .ok codec ∧ codec.encode t = .ok raw ∧
      client.escapeBytes standardStrings raw = .ok escaped ∧ codec.decode escaped = .ok body := by
  obtain ⟨codec, hcodec, h⟩ := Result.bind_eq_ok h
  obtain ⟨raw, hraw, h⟩ := Result.bind_eq_ok h
  obtain ⟨escaped, hescaped, h⟩ := Result.bind_eq_ok h
  exact ⟨codec, raw, escaped, Result.mapError_eq_ok hcodec, Result.mapError_eq_ok hraw,
    Result.mapError_eq_ok hescaped, Result.mapError_eq_ok h⟩

/-- An escaped body is that of the text as it is read back. -/
theorem Connection.Escapes.of_escaper {conn : Connection} {marked : Bool} {t body : Text}
    (hescapes : conn.Escapes marked) (h : conn.escaper marked t = .ok body) :
    ∃ u, conn.ReadsBack t u ∧ body = conn.mode.bodyOf u := by
  obtain ⟨mode, client, closeError⟩ := conn
  cases mode with
  | sqlite =>
    obtain ⟨-, -, hbody⟩ := Result.bind_eq_ok h
    exact ⟨t, rfl, (Except.ok.inj hbody).symm⟩
  | mysql backslashes =>
    exact ⟨t, rfl, hescapes t body (Result.mapError_eq_ok h)⟩
  | postgres standardStrings =>
    obtain ⟨-, -, hencoded⟩ := Result.bind_eq_ok h
    obtain ⟨codec, raw, escaped, hcodec, hraw, hescaped, hbody⟩ :=
      Client.escapeEncoded_eq_ok hencoded
    obtain ⟨u, hu, hform⟩ := hescapes codec hcodec t raw escaped body hraw hescaped hbody
    exact ⟨u, ⟨codec, raw, hcodec, hraw, hu⟩, hform⟩

theorem Connection.ReadsBack.unique {conn : Connection} {t u v : Text} (hu : conn.ReadsBack t u)
    (hv : conn.ReadsBack t v) : u = v := by
  obtain ⟨mode, client, closeError⟩ := conn
  cases mode with
  | sqlite => exact hu.trans hv.symm
  | mysql backslashes => exact hu.trans hv.symm
  | postgres standardStrings =>
    obtain ⟨codec, raw, hcodec, hraw, hread⟩ := hu
    obtain ⟨codec', raw', hcodec', hraw', hread'⟩ := hv
    obtain rfl := Except.ok.inj (hcodec.symm.trans hcodec')
    obtain rfl := Except.ok.inj (hraw.symm.trans hraw')
    exact Except.ok.inj (hread.symm.trans hread')

theorem Connection.ReadsBack.eq_of_product {conn : Connection} {t u : Text}
    (h : conn.ReadsBack t u) (hproduct : conn.mode.product ≠ .postgres) : u = t := by
  obtain ⟨mode, client, closeError⟩ := conn
  cases mode with
  | sqlite => exact h
  | mysql backslashes => exact h
  | postgres standardStrings => exact absurd rfl hproduct

/-! Encodings that keep quotes and backslashes apart -/

/-- A codec writes a text character by character, a quote and a backslash as their ASCII bytes and
no other character with one of these, and reads what it wrote. -/
structure Codec.Spells (codec : Codec) (spell : Char → Bytes) : Prop where
  quote : spell '\'' = [0x27]
  backslash : spell '\\' = [0x5c]
  other : ∀ c, c ≠ '\'' → c ≠ '\\' → ∀ b ∈ spell c, b ≠ 0x27 ∧ b ≠ 0x5c
  written : ∀ {t raw}, codec.encode t = .ok raw → raw = t.flatMap spell
  read : ∀ {t raw}, codec.encode t = .ok raw → ∀ u ⊆ t, codec.decode (u.flatMap spell) = .ok u

theorem doubled_cons (marked : Char → Bool) (c : Char) (t : Text) :
    doubled marked (c :: t) = (if marked c then [c, c] else [c]) ++ doubled marked t :=
  List.flatMap_cons

theorem doubled_subset (marked : Char → Bool) (t : Text) : doubled marked t ⊆ t := by
  intro c hc
  obtain ⟨d, hd, hcd⟩ := List.mem_flatMap.mp hc
  have heq : c = d := by
    split at hcd <;> simpa using hcd
  rw [heq]
  exact hd

theorem bodyOf_postgres (standardStrings : Bool) (t : Text) :
    (Mode.postgres standardStrings).bodyOf t
      = doubled (fun c => c == '\'' || (!standardStrings && c == '\\')) t := by
  cases standardStrings with
  | true =>
    have hquote : (fun c : Char => c == '\'' || (!true && c == '\\')) = isQuote := by
      funext c
      exact Bool.or_false _
    rw [hquote]
    rfl
  | false => rfl

theorem doubledBytes_append (standardStrings : Bool) (raw rest : Bytes) :
    doubledBytes standardStrings (raw ++ rest)
      = doubledBytes standardStrings raw ++ doubledBytes standardStrings rest :=
  List.flatMap_append

theorem doubledBytes_eq_self {standardStrings : Bool} {raw : Bytes}
    (h : ∀ b ∈ raw, b ≠ 0x27 ∧ b ≠ 0x5c) : doubledBytes standardStrings raw = raw := by
  have hsteps : ∀ b ∈ raw,
      (if b == 0x27 || (!standardStrings && b == 0x5c) then [b, b] else [b]) = [b] := by
    intro b hb
    simp [(h b hb).1, (h b hb).2]
  rw [doubledBytes, List.flatMap_congr hsteps]
  exact List.flatMap_singleton' raw

namespace Codec.Spells

variable {codec : Codec} {spell : Char → Bytes}

/-- To double the marked bytes of a text is to double its marked characters. -/
theorem doubledBytes_flatMap (h : codec.Spells spell) (standardStrings : Bool) (t : Text) :
    doubledBytes standardStrings (t.flatMap spell)
      = ((Mode.postgres standardStrings).bodyOf t).flatMap spell := by
  rw [bodyOf_postgres]
  induction t with
  | nil => rfl
  | cons c t ih =>
    rw [List.flatMap_cons, doubledBytes_append, ih, doubled_cons, List.flatMap_append]
    congr 1
    by_cases hq : c = '\''
    · subst hq
      simp [h.quote, doubledBytes]
    · by_cases hb : c = '\\'
      · subst hb
        cases standardStrings <;> simp [h.backslash, doubledBytes]
      · rw [doubledBytes_eq_self (h.other c hq hb)]
        simp [hq, hb]

theorem read_self (h : codec.Spells spell) {t : Text} {raw : Bytes}
    (hraw : codec.encode t = .ok raw) : codec.decode raw = .ok t := by
  rw [h.written hraw]
  exact h.read hraw t fun _ hc => hc

theorem read_doubledBytes (h : codec.Spells spell) {t : Text} {raw : Bytes}
    (hraw : codec.encode t = .ok raw) (standardStrings : Bool) :
    codec.decode (doubledBytes standardStrings raw)
      = .ok ((Mode.postgres standardStrings).bodyOf t) := by
  rw [h.written hraw, h.doubledBytes_flatMap]
  refine h.read hraw _ ?_
  rw [bodyOf_postgres]
  exact doubled_subset _ t

end Codec.Spells

/-- A client that doubles the marked bytes, over a codec that reads them as its marked characters
doubled. -/
theorem Client.escapesBytes_of_doubled {client : Client} {codec : Codec} {standardStrings : Bool}
    (hcodec : client.codec = .ok codec)
    (hbytes : ∀ raw, client.escapeBytes standardStrings raw
      = .ok (doubledBytes standardStrings raw))
    (hread : ∀ t raw, codec.encode t = .ok raw → ∃ u, codec.decode raw = .ok u ∧
      codec.decode (doubledBytes standardStrings raw)
        = .ok ((Mode.postgres standardStrings).bodyOf u)) :
    client.EscapesBytes standardStrings := by
  intro codec' hcodec' t raw escaped body hraw hescaped hbody
  obtain rfl := Except.ok.inj (hcodec.symm.trans hcodec')
  obtain rfl := Except.ok.inj ((hbytes raw).symm.trans hescaped)
  obtain ⟨u, hu, hdoubled⟩ := hread t raw hraw
  exact ⟨u, hu, Except.ok.inj (hbody.symm.trans hdoubled)⟩

/-- Over such an encoding a text is always read back as it was. -/
theorem Connection.ReadsBack.eq_of_spells {conn : Connection} {t u : Text} {codec : Codec}
    {spell : Char → Bytes} (h : conn.ReadsBack t u) (hcodec : conn.client.codec = .ok codec)
    (hspells : codec.Spells spell) : u = t := by
  obtain ⟨mode, client, closeError⟩ := conn
  cases mode with
  | sqlite => exact h
  | mysql backslashes => exact h
  | postgres standardStrings =>
    obtain ⟨codec', raw, hcodec', hraw, hread⟩ := h
    obtain rfl := Except.ok.inj (hcodec.symm.trans hcodec')
    exact Except.ok.inj (hread.symm.trans (hspells.read_self hraw))

/-! The encodings that are known -/

theorem byte_ne {c d : Char} (hc : c.toNat < 256) (hd : d.toNat < 256) (h : c ≠ d) :
    UInt8.ofNat c.toNat ≠ UInt8.ofNat d.toNat := by
  intro hbytes
  have hnat := congrArg UInt8.toNat hbytes
  simp only [UInt8.toNat_ofNat'] at hnat
  exact h (Char.toNat_inj.mp (by omega))

/-- The one byte of a character that is neither a quote nor a backslash is neither. -/
theorem unmarked_byte {c : Char} (hc : c.toNat < 256) (hq : c ≠ '\'') (hb : c ≠ '\\') :
    ∀ b ∈ [UInt8.ofNat c.toNat], b ≠ 0x27 ∧ b ≠ 0x5c := by
  intro b hbyte
  rw [List.mem_singleton.mp hbyte]
  exact ⟨byte_ne hc (by decide) hq, byte_ne hc (by decide) hb⟩

/-- Every byte of a character outside ASCII is outside it. -/
theorem utf8EncodeChar_cases (c : Char) :
    (c.toNat ≤ 127 ∧ String.utf8EncodeChar c = [UInt8.ofNat c.toNat]) ∨
      ∀ b ∈ String.utf8EncodeChar c, 128 ≤ b.toNat := by
  have hval : c.val.toNat = c.toNat := rfl
  by_cases hc : c.toNat ≤ 127
  · refine .inl ⟨hc, ?_⟩
    simp only [String.utf8EncodeChar, hval, if_pos hc]
  · refine .inr ?_
    simp only [String.utf8EncodeChar, hval, if_neg hc]
    split
    · simp only [List.forall_mem_cons, UInt8.toNat_ofNat']
      exact ⟨by omega, by omega, by simp⟩
    · split
      · simp only [List.forall_mem_cons, UInt8.toNat_ofNat']
        exact ⟨by omega, by omega, by omega, by simp⟩
      · simp only [List.forall_mem_cons, UInt8.toNat_ofNat']
        exact ⟨by omega, by omega, by omega, by omega, by simp⟩

theorem Codec.spells_utf8 : Codec.utf8.Spells String.utf8EncodeChar where
  quote := rfl
  backslash := rfl
  other := by
    intro c hq hb b hbyte
    rcases utf8EncodeChar_cases c with ⟨hc, hform⟩ | hhigh
    · rw [hform] at hbyte
      exact unmarked_byte (by omega) hq hb b hbyte
    · have hne : ∀ d : UInt8, d.toNat < 128 → b ≠ d := by
        intro d hd hsame
        have hbound := hhigh b hbyte
        rw [hsame] at hbound
        omega
      exact ⟨hne 0x27 (by decide), hne 0x5c (by decide)⟩
  written h := (Except.ok.inj h).symm
  read := by
    intro t raw _ u _
    show Codec.utf8.decode (Utf8.encode u) = .ok u
    simp only [Codec.utf8, Utf8.decode?_encode]

/-- The one byte of a character, where the encoding has it. -/
def narrowSpelling (limit : Nat) (c : Char) : Bytes :=
  if c.toNat < limit then [UInt8.ofNat c.toNat] else []

theorem flatMap_narrowSpelling {limit : Nat} {t : Text} (h : ∀ c ∈ t, c.toNat < limit) :
    t.flatMap (narrowSpelling limit) = t.map fun c => UInt8.ofNat c.toNat := by
  rw [List.map_eq_flatMap]
  refine List.flatMap_congr ?_
  intro c hc
  exact if_pos (h c hc)

theorem encode_narrow_eq_ok {name coder : String} {limit : Nat} {t : Text} {raw : Bytes}
    (h : (Codec.narrow name coder limit).encode t = .ok raw) :
    (∀ c ∈ t, c.toNat < limit) ∧ raw = t.map fun c => UInt8.ofNat c.toNat := by
  simp only [Codec.narrow] at h
  split at h
  · cases h
  · rename_i hnone
    have hall := Unwritable.find?_eq_none_iff.mp hnone
    exact ⟨fun c hc => of_decide_eq_true (hall c hc), (Except.ok.inj h).symm⟩

theorem decode_narrow_map {limit : Nat} (hlimit : limit ≤ 256) (name coder : String) {u : Text}
    (h : ∀ c ∈ u, c.toNat < limit) :
    (Codec.narrow name coder limit).decode (u.map fun c => UInt8.ofNat c.toNat) = .ok u := by
  have hbyte : ∀ c ∈ u, (UInt8.ofNat c.toNat).toNat = c.toNat := by
    intro c hc
    rw [UInt8.toNat_ofNat']
    exact Nat.mod_eq_of_lt (Nat.lt_of_lt_of_le (h c hc) hlimit)
  have hnone : (u.map fun c => UInt8.ofNat c.toNat).dropWhile (·.toNat < limit) = [] := by
    rw [List.dropWhile_eq_nil_iff]
    intro b hb
    obtain ⟨c, hc, rfl⟩ := List.mem_map.mp hb
    rw [hbyte c hc]
    exact decide_eq_true (h c hc)
  simp only [Codec.narrow, hnone, List.map_map]
  refine congrArg Except.ok ?_
  conv => rhs; rw [← List.map_id u]
  refine List.map_congr_left fun c hc => ?_
  show Char.ofNat (UInt8.ofNat c.toNat).toNat = c
  rw [hbyte c hc, Char.ofNat_toNat]

theorem Codec.spells_narrow {limit : Nat} (hleast : 0x5c < limit) (hlimit : limit ≤ 256)
    (name coder : String) :
    (Codec.narrow name coder limit).Spells (narrowSpelling limit) where
  quote := if_pos (show 0x27 < limit by omega)
  backslash := if_pos hleast
  other := by
    intro c hq hb b hbyte
    unfold narrowSpelling at hbyte
    split at hbyte
    · exact unmarked_byte (by omega) hq hb b hbyte
    · cases hbyte
  written h := by
    obtain ⟨hall, hraw⟩ := encode_narrow_eq_ok h
    rw [hraw, flatMap_narrowSpelling hall]
  read h u hu := by
    obtain ⟨hall, -⟩ := encode_narrow_eq_ok h
    have hsub : ∀ c ∈ u, c.toNat < limit := fun c hc => hall c (hu hc)
    rw [flatMap_narrowSpelling hsub]
    exact decode_narrow_map hlimit name coder hsub

theorem Codec.spells_latin1 : Codec.latin1.Spells (narrowSpelling 256) :=
  spells_narrow (by decide) (by decide) _ _

/-- A client that escapes as it is documented, over an encoding that keeps quotes and backslashes
apart. -/
theorem Connection.escapes_documented {codec : Codec} {spell : Char → Bytes}
    (h : codec.Spells spell) (mode : Mode) (closeError : Option StoreError) (marked : Bool) :
    Connection.Escapes ⟨mode, { codec := .ok codec }, closeError⟩ marked := by
  cases mode with
  | sqlite => trivial
  | mysql backslashes =>
    intro t body hbody
    exact (Except.ok.inj hbody).symm
  | postgres standardStrings =>
    exact Client.escapesBytes_of_doubled rfl (fun _ => rfl) fun t raw hraw =>
      ⟨t, h.read_self hraw, h.read_doubledBytes hraw standardStrings⟩

theorem Connection.escapesAll_documented {codec : Codec} {spell : Char → Bytes}
    (h : codec.Spells spell) (mode : Mode) (closeError : Option StoreError)
    (values : List Value) :
    Connection.EscapesAll ⟨mode, { codec := .ok codec }, closeError⟩ values :=
  fun v _ _ => escapes_documented h mode closeError v.isMarkup

end GuardedSql
