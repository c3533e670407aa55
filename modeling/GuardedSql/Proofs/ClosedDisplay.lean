import GuardedSql.Proofs.Decoding
import GuardedSql.Proofs.Lifecycle

/-! Stored text shown after its session's end. While a session is open it decodes a literal in the
mode of its connection; once it is closed, in the mode that its product has by default. The text
that was encoded comes back from both alike, unless the mode was not the default one and the text
has backslashes in it that the two modes read differently. -/

namespace GuardedSql

open Literal (plainPunctuation wrapped)

namespace Display

/-! What a pass leaves as it is -/

theorem length_unbackslash_le (t : Text) : (unbackslash t).length ≤ t.length := by
  fun_induction unbackslash t with
  | case1 => exact Nat.le_refl _
  | case2 c rest ih =>
    simp only [List.length_cons]
    omega
  | case3 c rest _ ih => exact Nat.succ_le_succ ih

/-- A backslash takes the next character with it, if there is one. -/
theorem unbackslash_eq_self_iff (t : Text) : unbackslash t = t ↔ '\\' ∉ t.dropLast := by
  fun_induction unbackslash t with
  | case1 => simp
  | case2 c rest ih =>
    have hshorter : unescapedChar c :: unbackslash rest ≠ '\\' :: c :: rest := by
      intro heq
      have hlength := congrArg List.length heq
      have hle := length_unbackslash_le rest
      simp only [List.length_cons] at hlength
      omega
    simp [hshorter]
  | case3 c rest hpair ih =>
    cases rest with
    | nil => simp [unbackslash]
    | cons d rest =>
      have hc : c ≠ '\\' := by
        intro hc
        exact hpair d rest hc rfl
      rw [List.cons_inj_right, ih, List.dropLast_cons_cons, List.mem_cons]
      simp [Ne.symm hc]

theorem length_doubled (marked : Char → Bool) (t : Text) :
    (doubled marked t).length = t.length + t.countP marked := by
  induction t with
  | nil => rfl
  | cons c t ih =>
    rw [doubled_cons, List.length_append, ih, List.length_cons, List.countP_cons]
    cases marked c with
    | true =>
      simp
      omega
    | false =>
      simp
      omega

theorem doubled_eq_self_iff (marked : Char → Bool) (t : Text) :
    doubled marked t = t ↔ ∀ c ∈ t, marked c = false := by
  constructor
  · intro h
    have hlength := length_doubled marked t
    rw [h] at hlength
    have hnone : t.countP marked = 0 := by omega
    simpa using List.countP_eq_zero.mp hnone
  · intro h
    have hkept : t.flatMap (fun c => if marked c then [c, c] else [c]) = t.flatMap fun c => [c] :=
      List.flatMap_congr fun c hc => by rw [h c hc]; rfl
    exact hkept.trans (List.flatMap_singleton' t)

end Display

/-! Decoding in the default mode -/

/-- The mode that a product's stores are in by default. -/
def Product.defaultMode : Product → Mode
  | .sqlite => .sqlite
  | .mysql => .mysql true
  | .postgres => .postgres true

theorem Product.product_defaultMode (p : Product) : p.defaultMode.product = p := by
  cases p <;> rfl

theorem Product.backslashEscapes_defaultMode (p : Product) :
    p.defaultMode.backslashEscapes = (p == .mysql) := by
  cases p <;> rfl

namespace Mode

/-- What a text becomes if its literal, made in the mode, is decoded in the product's default
one. -/
def shownByDefault (mode : Mode) (t : Text) : Text :=
  match mode with
  | .mysql false => Display.unbackslash t
  | .postgres false => doubled (· == '\\') t
  | _ => t

/-- The mode and the product's default one read the backslashes of a text alike. -/
def KeptByDefault (mode : Mode) (t : Text) : Prop :=
  match mode with
  | .mysql false => '\\' ∉ t.dropLast
  | .postgres false => '\\' ∉ t
  | _ => True

instance : (mode : Mode) → (t : Text) → Decidable (mode.KeptByDefault t)
  | .mysql false, t => inferInstanceAs (Decidable ('\\' ∉ t.dropLast))
  | .postgres false, t => inferInstanceAs (Decidable ('\\' ∉ t))
  | .sqlite, _ | .mysql true, _ | .postgres true, _ => isTrue trivial

theorem shownByDefault_eq_self_iff (mode : Mode) (t : Text) :
    mode.shownByDefault t = t ↔ mode.KeptByDefault t := by
  rcases mode with _ | (_ | _) | (_ | _)
  case mysql.false => exact Display.unbackslash_eq_self_iff t
  case postgres.false =>
    rw [shownByDefault, KeptByDefault, Display.doubled_eq_self_iff]
    constructor
    · intro h hmem
      exact absurd (h _ hmem) (by decide)
    · intro h c hc
      rw [beq_eq_false_iff_ne]
      rintro rfl
      exact h hc
  all_goals exact iff_of_true rfl trivial

theorem decode_by_default (mode : Mode) (t : Text) :
    Display.decode mode.product.defaultMode.backslashEscapes (wrapped (mode.bodyOf t))
      = mode.shownByDefault t := by
  rcases mode with _ | (_ | _) | (_ | _)
  case mysql.false =>
    have hquotes : Display.undouble (Display.unwrap (wrapped (doubled isQuote t))) = t := by
      rw [Display.unwrap_wrapped, Display.undouble_doubled_quotes]
    exact congrArg Display.unbackslash hquotes
  case postgres.false =>
    have hquotes : Display.undouble (Display.unwrap (wrapped (doubled isQuoteOrBackslash t)))
        = doubled (· == '\\') t := by
      rw [Display.unwrap_wrapped, Display.undouble_doubled_quotes_and_backslashes]
    exact hquotes
  -- elsewhere the mode is the default one
  all_goals exact Display.decode_wrapped_bodyOf _ t

end Mode

/-! Sessions -/

theorem Step.product_shift (step : Step) (conn : Connection) :
    (step.shift conn).mode.product = conn.mode.product := by
  obtain ⟨mode, client, closeError⟩ := conn
  cases step with
  | setBackslashes backslashes => cases mode <;> rfl
  | setStandardStrings standardStrings => cases mode <;> rfl
  | _ => rfl

namespace Session

/-- The connection of a session, if it has one, is to the session's product. -/
def Matched (s : Session) : Prop :=
  ∀ conn, s.connection = some conn → conn.mode.product = s.product

theorem Matched.step {s : Session} (h : s.Matched) (step : Step) :
    (s.step step).session.Matched := by
  rw [session_step]
  intro conn hconn
  dsimp only at hconn ⊢
  split at hconn
  · cases hconn
  · obtain ⟨conn', hconn', rfl⟩ := Option.map_eq_some_iff.mp hconn
    exact (step.product_shift conn').trans (h conn' hconn')

theorem Matched.after {s : Session} (h : s.Matched) (taken : List Step) :
    (s.after taken).Matched := by
  induction taken generalizing s with
  | nil => exact h
  | cons step rest ih => exact ih (h.step step)

variable {settings : Config.Settings} {given : Option Config.DataSource} {database : Option Text}
  {softDelete : Option Bool} {connect : Product → Except StoreError Connection} {s : Session}

theorem matched_of_start
    (hconnect : ∀ product conn, connect product = .ok conn → conn.mode.product = product)
    (h : (start settings given database softDelete connect).session = .ok s) : s.Matched := by
  unfold start at h
  split at h
  · cases h
  · rename_i ds hsource
    cases hconn : connect ds.product with
    | error e =>
      simp only [hconn] at h
      split at h <;> cases h
    | ok conn =>
      simp only [hconn] at h
      obtain rfl := Except.ok.inj h
      intro conn' hconn'
      obtain rfl := Option.some.inj hconn'
      exact hconnect _ _ hconn

theorem unescape_of_open {conn : Connection} (hopen : s.connection = some conn) (encoded : Text) :
    s.unescape encoded = Display.decode conn.mode.backslashEscapes encoded := by
  rw [unescape, hopen]

theorem unescape_of_closed (hclosed : s.closed = true) (encoded : Text) :
    s.unescape encoded = Display.decode s.product.defaultMode.backslashEscapes encoded := by
  rw [unescape, closed_eq_true_iff.mp hclosed, Product.backslashEscapes_defaultMode]

/-- A text that an open session has encoded, shown by it and by the session after its end, however
that came about. The open session shows the text with plain punctuation, as the client's encoding
reads it back. After the end it is shown as the product's default mode reads the literal, which is
the same exactly if the two modes read its backslashes alike. -/
theorem unescape_after_end
    (hconnect : ∀ product conn, connect product = .ok conn → conn.mode.product = product)
    (hstart : (start settings given database softDelete connect).session = .ok s)
    (before : List Step) {conn : Connection} (hopen : (s.after before).connection = some conn)
    {v : Value} {t literal : Text} (hescapes : conn.Escapes v.isMarkup) (hv : v.text? = some t)
    (h : Literal.encode conn.escaper v = .ok literal) :
    ∃ u, conn.ReadsBack (plainPunctuation t) u ∧
      (s.after before).unescape literal = u ∧
      ((s.after before).unescape literal = plainPunctuation t ↔
        conn.ReadsBack (plainPunctuation t) (plainPunctuation t)) ∧
      ∀ rest, (s.after (before ++ rest)).closed = true →
        (s.after (before ++ rest)).unescape literal = conn.mode.shownByDefault u ∧
          ((s.after (before ++ rest)).unescape literal = (s.after before).unescape literal ↔
            conn.mode.KeptByDefault u) := by
  obtain ⟨u, hu, rfl⟩ := Literal.eq_wrapped_bodyOf hescapes hv h
  have hshown : (s.after before).unescape (wrapped (conn.mode.bodyOf u)) = u := by
    rw [unescape_of_open hopen]
    exact Display.decode_wrapped_bodyOf conn.mode u
  refine ⟨u, hu, hshown, ?_, ?_⟩
  · rw [hshown]
    constructor
    · intro hsame
      rwa [hsame] at hu
    · exact hu.unique
  · intro rest hclosed
    have hproduct : (s.after (before ++ rest)).product = conn.mode.product := by
      rw [after_append, after_eq, ((matched_of_start hconnect hstart).after before) conn hopen]
    have hdefault : (s.after (before ++ rest)).unescape (wrapped (conn.mode.bodyOf u))
        = conn.mode.shownByDefault u := by
      rw [unescape_of_closed hclosed, hproduct]
      exact conn.mode.decode_by_default u
    refine ⟨hdefault, ?_⟩
    rw [hdefault, hshown]
    exact conn.mode.shownByDefault_eq_self_iff u

/-- On a server that has stopped taking backslashes as escapes, a backslash at the very end of a
text is shown alike. -/
theorem unescape_after_end_last_backslash :
    (start {} (some ⟨.mysql, some ['h'], none, ['d'], some ['u'], []⟩) none none
      fun product => .ok ⟨product.defaultMode, {}, none⟩).session
        = .ok ⟨.mysql, true, some ⟨.mysql true, {}, none⟩⟩ ∧
    Literal.encode (⟨.mysql false, {}, none⟩ : Connection).escaper (.text "it\u2019s \\".toList)
      = .ok "'it''s \\'".toList ∧
    ((⟨.mysql, true, some ⟨.mysql true, {}, none⟩⟩ : Session).after
        [.setBackslashes false]).unescape "'it''s \\'".toList = "it's \\".toList ∧
    ((⟨.mysql, true, some ⟨.mysql true, {}, none⟩⟩ : Session).after
        [.setBackslashes false, .close]).unescape "'it''s \\'".toList = "it's \\".toList := by
  have hstart : (start {} (some ⟨.mysql, some ['h'], none, ['d'], some ['u'], []⟩) none none
      fun product => .ok ⟨product.defaultMode, {}, none⟩).session
        = .ok ⟨.mysql, true, some ⟨.mysql true, {}, none⟩⟩ := rfl
  have hconnect : ∀ (product : Product) (conn : Connection),
      (.ok ⟨product.defaultMode, {}, none⟩ : Except StoreError Connection) = .ok conn →
        conn.mode.product = product := by
    intro product conn h
    obtain rfl := Except.ok.inj h
    exact product.product_defaultMode
  have hencode : Literal.encode (⟨.mysql false, {}, none⟩ : Connection).escaper
      (.text "it\u2019s \\".toList) = .ok "'it''s \\'".toList := by
    cbv
  have hlast : (Mode.mysql false).KeptByDefault "it's \\".toList := by decide
  have hplain : plainPunctuation "it\u2019s \\".toList = "it's \\".toList := by
    cbv
  have hescapes := Connection.escapes_documented Codec.spells_utf8 (.mysql false) none false
  obtain ⟨u, hu, hshown, -, hclosed⟩ :=
    unescape_after_end hconnect hstart [.setBackslashes false] rfl hescapes rfl hencode
  obtain rfl : u = "it's \\".toList := (hu.eq_of_product (by decide)).trans hplain
  obtain ⟨-, halike⟩ := hclosed [.close] rfl
  exact ⟨hstart, hencode, hshown, (halike.mpr hlast).trans hshown⟩

/-- Where the mode is not the default one, a backslash is taken for an escape after the end, or an
escaped one is left so. -/
theorem unescape_after_end_otherwise :
    Literal.encode (⟨.mysql false, {}, none⟩ : Connection).escaper (.text "C:\\new".toList)
      = .ok "'C:\\new'".toList ∧
    (⟨.mysql, true, some ⟨.mysql false, {}, none⟩⟩ : Session).unescape "'C:\\new'".toList
      = "C:\\new".toList ∧
    ((⟨.mysql, true, some ⟨.mysql false, {}, none⟩⟩ : Session).after [.close]).unescape
      "'C:\\new'".toList = "C:\new".toList ∧
    Literal.encode (⟨.postgres false, {}, none⟩ : Connection).escaper (.text "C:\\new".toList)
      = .ok "'C:\\\\new'".toList ∧
    (⟨.postgres, true, some ⟨.postgres false, {}, none⟩⟩ : Session).unescape
      "'C:\\\\new'".toList = "C:\\new".toList ∧
    ((⟨.postgres, true, some ⟨.postgres false, {}, none⟩⟩ : Session).after
      [.close]).unescape "'C:\\\\new'".toList = "C:\\\\new".toList := by
  refine ⟨?_, ?_, ?_, ?_, ?_, ?_⟩ <;> cbv

end Session

end GuardedSql
