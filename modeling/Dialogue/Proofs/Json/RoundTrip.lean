import Dialogue.Json.Reader
import Dialogue.Json.Writer
import Dialogue.Proofs.Assoc
import Dialogue.Text.Lines
set_option autoImplicit false

/-!
# Reading inverts writing

A text that has been quoted is read back, whatever its characters are and whatever follows, and so
is an object whose members are texts under different names (`Json.read_indented`).  Where a member
is read as another value than the one that was written, the object is read with that value in its
place (`Json.read_indented_map`).
-/

namespace Dialogue

/-! ## Digits of base sixteen -/

namespace Text

theorem hexValue?_digitChar : ∀ n < 16, hexValue? (Nat.digitChar n) = some n := by decide

theorem hexValue?_hexDigit (n : Nat) : hexValue? (hexDigit n) = some (n % 16) :=
  hexValue?_digitChar (n % 16) (Nat.mod_lt n (by decide))

theorem hex_four (n : Nat) :
    hex 4 n =
      [hexDigit (n / 16 / 16 / 16), hexDigit (n / 16 / 16), hexDigit (n / 16), hexDigit n] :=
  rfl

theorem digitChar_ne_return : ∀ n < 16, '\r' ≠ Nat.digitChar n := by decide

/-! ## Carriage returns -/

/-- A text without carriage returns keeps its line ends. -/
theorem unifyNewlines_eq_self {t : Text} (h : '\r' ∉ t) : unifyNewlines t = t := by
  induction t with
  | nil => rfl
  | cons c t ih =>
    simp only [List.mem_cons, not_or] at h
    rw [unifyNewlines, if_neg (Ne.symm h.1), ih h.2]
    exact fun _ hc _ => h.1 hc.symm

theorem notMem_joinWith {c : Char} {sep : Text} (hsep : c ∉ sep) {ts : List Text}
    (hts : ∀ t ∈ ts, c ∉ t) : c ∉ joinWith sep ts := by
  induction ts with
  | nil => exact List.not_mem_nil
  | cons t ts ih =>
    obtain ⟨ht, hrest⟩ := List.forall_mem_cons.1 hts
    cases ts with
    | nil => exact ht
    | cons u us =>
      simp only [joinWith, List.mem_append, not_or]
      exact ⟨⟨ht, hsep⟩, ih hrest⟩

end Text

namespace Json

theorem code?_hex {n : Nat} (h : n < 0x10000) (t : Text) : code? (Text.hex 4 n ++ t) = some n := by
  have hvalue : ((n / 16 / 16 / 16 % 16 * 16 + n / 16 / 16 % 16) * 16 + n / 16 % 16) * 16 + n % 16 =
      n := by omega
  rw [Text.hex_four]
  simp only [List.cons_append, code?, Text.hexValue?_hexDigit, bind, Option.bind]
  exact congrArg some hvalue

/-! ## Texts -/

/-- The characters that are escaped by a letter. -/
def lettered : List Char := ['"', '\\', '\n', '\r', '\t', '\x0c', '\x08']

/-- A character is escaped by a letter or by its code, or it stands for itself. -/
theorem escaped_cases (c : Char) :
    (∃ x, escaped c = ['\\', x] ∧ escape? x = some c ∧ x ≠ 'u' ∧ x ≠ '\r') ∨
      (escaped c = '\\' :: 'u' :: Text.hex 4 c.toNat ∧ c.toNat < 0x20) ∨
      (escaped c = [c] ∧ c ≠ '"' ∧ c ≠ '\\' ∧ ¬c.toNat < 0x20) := by
  by_cases hletter : c ∈ lettered
  · simp only [lettered, List.mem_cons, List.not_mem_nil, or_false] at hletter
    rcases hletter with rfl | rfl | rfl | rfl | rfl | rfl | rfl <;>
      exact .inl ⟨_, rfl, rfl, by decide, by decide⟩
  · simp only [lettered, List.mem_cons, List.not_mem_nil, or_false, not_or] at hletter
    obtain ⟨hquote, hslash, hnewline, hreturn, htab, hfeed, hback⟩ := hletter
    rw [escaped, if_neg hquote, if_neg hslash, if_neg hnewline, if_neg hreturn, if_neg htab,
      if_neg hfeed, if_neg hback]
    by_cases hc : c.toNat < 0x20
    · exact .inr (.inl ⟨if_pos hc, hc⟩)
    · exact .inr (.inr ⟨if_neg hc, hquote, hslash, hc⟩)

/-- The code point of one more character before those that have been read. -/
def withFirst (c : Char) (read : List Nat × Text) : List Nat × Text := (c.toNat :: read.1, read.2)

section readText

variable (start : Text) (t : Text)

/-- Characters that belong to an escape are passed over. -/
theorem readText_skip (skipped : Text) :
    readText start skipped.length (skipped ++ t) = readText start 0 t := by
  induction skipped with
  | nil => rfl
  | cons c skipped ih => exact ih

theorem readText_letter {x c : Char} (hx : x ≠ 'u') (hc : escape? x = some c) :
    readText start 0 ('\\' :: x :: t) = (readText start 0 t).map (withFirst c) := by
  rw [readText, if_neg hx, hc]
  show (readText start 0 t >>= fun read => pure (withFirst c read)) = _
  cases readText start 0 t <;> rfl

theorem readText_code {c : Char} (hc : c.toNat < 0x20) (ht : t ≠ []) :
    readText start 0 ('\\' :: 'u' :: (Text.hex 4 c.toNat ++ t)) =
      (readText start 0 t).map (withFirst c) := by
  have hescaped : escapedCode ('u' :: (Text.hex 4 c.toNat ++ t)) = .ok (c.toNat, 5) := by
    have hlength : (Text.hex 4 c.toNat).length = 4 := rfl
    have hdrop : (Text.hex 4 c.toNat ++ t).drop 4 = t := List.drop_left' hlength
    have hfull : t.isEmpty = false := by simp [ht]
    simp only [escapedCode, List.drop_succ_cons, List.drop_zero, hdrop, hfull, Bool.false_eq_true,
      if_false, code?_hex (Nat.lt_trans hc (by decide))]
    rw [if_neg (by omega)]
  have hskip : readText start 5 ('u' :: (Text.hex 4 c.toNat ++ t)) = readText start 0 t :=
    readText_skip start t ('u' :: Text.hex 4 c.toNat)
  rw [readText, if_pos rfl, hescaped]
  show (readText start 5 ('u' :: (Text.hex 4 c.toNat ++ t)) >>= fun read =>
    pure (withFirst c read)) = _
  rw [hskip]
  cases readText start 0 t <;> rfl

theorem readText_plain {c : Char} (hquote : c ≠ '"') (hslash : c ≠ '\\') (hc : ¬c.toNat < 0x20) :
    readText start 0 (c :: t) = (readText start 0 t).map (withFirst c) := by
  rw [readText, if_neg hc]
  · show (readText start 0 t >>= fun read => pure (withFirst c read)) = _
    cases readText start 0 t <;> rfl
  · exact hquote
  · exact fun h _ => hslash h
  · exact fun _ _ h _ => hslash h

/-- A character is read back as it was written. -/
theorem readText_escaped (c : Char) (ht : t ≠ []) :
    readText start 0 (escaped c ++ t) = (readText start 0 t).map (withFirst c) := by
  rcases escaped_cases c with
    ⟨x, hescaped, hx, hu, -⟩ | ⟨hescaped, hc⟩ | ⟨hescaped, hquote, hslash, hc⟩
  · rw [hescaped]
    exact readText_letter start t hu hx
  · rw [hescaped]
    exact readText_code start t hc ht
  · rw [hescaped]
    exact readText_plain start t hquote hslash hc

end readText

/-- A text is read back through its closing mark, whatever follows. -/
theorem readText_quoted (start t rest : Text) :
    readText start 0 (t.flatMap escaped ++ '"' :: rest) = .ok (CodePoints.ofText t, rest) := by
  induction t with
  | nil => rfl
  | cons c t ih =>
    rw [List.flatMap_cons, List.append_assoc, readText_escaped _ _ _ (by simp), ih]
    rfl

theorem quote_append (t rest : Text) :
    quote t ++ rest = '"' :: (t.flatMap escaped ++ '"' :: rest) := by
  simp [quote]

/-! ## Blanks -/

theorem skipBlanks_newline (level : Nat) (t : Text) :
    skipBlanks (newline level ++ t) = skipBlanks t := by
  have hspaces : ∀ n, skipBlanks (List.replicate n ' ' ++ t) = skipBlanks t := by
    intro n
    induction n with
    | zero => rfl
    | succ n ih => exact ih
  exact hspaces (2 * level)

theorem skipBlanks_quote (t rest : Text) : skipBlanks (quote t ++ rest) = quote t ++ rest := rfl

/-! ## Line ends -/

theorem notMem_newline (level : Nat) : '\r' ∉ newline level := by
  simp [newline, List.mem_replicate]

theorem notMem_escaped (c : Char) : '\r' ∉ escaped c := by
  rcases escaped_cases c with ⟨x, hescaped, -, -, hx⟩ | ⟨hescaped, -⟩ | ⟨hescaped, -, -, hc⟩
  · rw [hescaped]
    simp [Ne.symm hx]
  · have hdigit : ∀ n, '\r' ≠ Text.hexDigit n := fun n =>
      Text.digitChar_ne_return (n % 16) (Nat.mod_lt n (by decide))
    rw [hescaped, Text.hex_four]
    simp [hdigit]
  · rw [hescaped, List.mem_singleton]
    rintro rfl
    exact hc (by decide)

theorem notMem_quote (t : Text) : '\r' ∉ quote t := by
  have hescaped : '\r' ∉ t.flatMap escaped := by
    intro h
    obtain ⟨c, -, hc⟩ := List.mem_flatMap.1 h
    exact notMem_escaped c hc
  simp only [quote, List.mem_append, List.mem_cons, not_or]
  exact ⟨⟨by decide, hescaped⟩, by decide, List.not_mem_nil⟩

/-! ## Members -/

/-- The value is read back from its written form, whatever follows.  Nothing blank stands before it,
and its line ends are plain. -/
structure Restores (v : Json) : Prop where
  solid : ∀ level rest, skipBlanks (v.indentedAt level ++ rest) = v.indentedAt level ++ rest
  read : ∀ level n rest, (v.indentedAt level).length < n →
    readValue n (v.indentedAt level ++ rest) = .ok (v, rest)
  plain : ∀ level, '\r' ∉ v.indentedAt level

theorem restores_text (t : Text) : Restores (text t) where
  solid level rest := skipBlanks_quote t rest
  read level n rest hn := by
    obtain ⟨m, rfl⟩ : ∃ m, n = m + 1 := ⟨n - 1, by omega⟩
    rw [indentedAt, quote_append, readValue, readText_quoted]
    exact congrArg (fun v => Except.ok (v, rest)) (ofCodes_ofText t)
  plain level := notMem_quote t

/-- What follows a value inside an object or array: a comma or the end of the line. -/
def Ends (rest : Text) : Prop := ∃ c t, rest = c :: t ∧ (c = ',' ∨ c = '\n')

theorem ends_comma (t : Text) : Ends (',' :: t) := ⟨',', t, rfl, .inl rfl⟩

theorem ends_newline (level : Nat) (t : Text) : Ends (newline level ++ t) :=
  ⟨'\n', _, rfl, .inr rfl⟩

/-- The written form of the value `v` is read as the value `w` where another line or member follows.
Nothing blank stands before it, and its line ends are plain. -/
structure Rereads (v w : Json) : Prop where
  solid : ∀ level rest, skipBlanks (v.indentedAt level ++ rest) = v.indentedAt level ++ rest
  read : ∀ level n rest, Ends rest → (v.indentedAt level).length < n →
    readValue n (v.indentedAt level ++ rest) = .ok (w, rest)
  plain : ∀ level, '\r' ∉ v.indentedAt level

theorem Restores.rereads {v : Json} (h : Restores v) : Rereads v v :=
  ⟨h.solid, fun level n rest _ => h.read level n rest, h.plain⟩

/-- A member as it is written. -/
def memberAt (level : Nat) (member : Text × Json) : Text :=
  quote member.1 ++ ": ".toList ++ member.2.indentedAt level

theorem membersAt_eq_map (level : Nat) (members : List (Text × Json)) :
    membersAt level members = members.map (memberAt level) := by
  induction members with
  | nil => rfl
  | cons member rest ih =>
    obtain ⟨k, v⟩ := member
    rw [membersAt, ih]
    rfl

theorem memberAt_append (level : Nat) (k : Text) (v : Json) (more : Text) :
    memberAt level (k, v) ++ more =
      '"' :: (k.flatMap escaped ++ '"' :: ':' :: ' ' :: (v.indentedAt level ++ more)) := by
  simp [memberAt, quote]

theorem length_memberAt (level : Nat) (k : Text) (v : Json) :
    (v.indentedAt level).length + 4 ≤ (memberAt level (k, v)).length := by
  have hcolon : ": ".toList.length = 2 := rfl
  simp only [memberAt, quote, List.length_append, List.length_cons, List.length_nil, hcolon]
  omega

/-- What follows the value of a member: the end of the object, or another member. -/
def afterValue (n : Nat) (members : Assoc Json (List Nat)) (name : List Nat) (read : Json × Text) :
    Except Fault (Assoc Json (List Nat) × Text) :=
  match skipBlanks read.2 with
  | '\x7d' :: rest => .ok (Assoc.put name read.1 members, rest)
  | ',' :: rest => readMembers n (Assoc.put name read.1 members) (skipBlanks rest)
  | rest => .error ⟨.commaExpected, rest⟩

theorem readMembers_memberAt {v w : Json} (hv : Rereads v w) {level n : Nat}
    (hn : (v.indentedAt level).length < n) (members : Assoc Json (List Nat)) (k : Text)
    {more : Text} (hmore : Ends more) :
    readMembers (n + 1) members (memberAt level (k, v) ++ more) =
      afterValue n members (CodePoints.ofText k) (w, more) := by
  have hvalue : readValue n (skipBlanks (' ' :: (v.indentedAt level ++ more))) = .ok (w, more) := by
    rw [show skipBlanks (' ' :: (v.indentedAt level ++ more)) = v.indentedAt level ++ more from
      hv.solid level more]
    exact hv.read level n more hmore hn
  rw [memberAt_append, readMembers, readText_quoted]
  show (readValue n (skipBlanks (' ' :: (v.indentedAt level ++ more))) >>=
    afterValue n members (CodePoints.ofText k)) = _
  rw [hvalue]
  rfl

/-- Members as they are written, one a line. -/
def rows (level : Nat) (members : List (Text × Json)) : Text :=
  Text.joinWith (',' :: newline level) (membersAt level members)

theorem rows_singleton (level : Nat) (member : Text × Json) :
    rows level [member] = memberAt level member := by
  rw [rows, membersAt_eq_map]
  rfl

theorem rows_cons (level : Nat) (member next : Text × Json) (more : List (Text × Json)) :
    rows level (member :: next :: more) =
      memberAt level member ++ ',' :: (newline level ++ rows level (next :: more)) := by
  rw [rows, rows, membersAt_eq_map, membersAt_eq_map]
  simp only [List.map_cons, Text.joinWith, List.append_assoc, List.cons_append]

theorem exists_rows_cons (level : Nat) (member : Text × Json) (more : List (Text × Json)) :
    ∃ t, rows level (member :: more) = '"' :: t := by
  obtain ⟨k, v⟩ := member
  cases more with
  | nil =>
    rw [rows_singleton, ← List.append_nil (memberAt level (k, v)), memberAt_append]
    exact ⟨_, rfl⟩
  | cons next more =>
    rw [rows_cons, memberAt_append]
    exact ⟨_, rfl⟩

theorem skipBlanks_rows (level : Nat) (member : Text × Json) (more : List (Text × Json))
    (t : Text) :
    skipBlanks (rows level (member :: more) ++ t) = rows level (member :: more) ++ t := by
  obtain ⟨first, hfirst⟩ := exists_rows_cons level member more
  rw [hfirst]
  rfl

theorem notMem_rows (level : Nat) {members : List (Text × Json)}
    (hall : ∀ member ∈ members, ∀ level, '\r' ∉ member.2.indentedAt level) :
    '\r' ∉ rows level members := by
  rw [rows, membersAt_eq_map]
  refine Text.notMem_joinWith ?_ ?_
  · simp only [List.mem_cons, not_or]
    exact ⟨by decide, notMem_newline level⟩
  · intro t ht
    obtain ⟨member, hmember, rfl⟩ := List.mem_map.1 ht
    simp only [memberAt, List.mem_append, not_or]
    exact ⟨⟨notMem_quote _, by decide⟩, hall member hmember level⟩

/-- The members after each has been read again as the value that `g` gives. -/
def mapMembers (g : Json → Json) (members : List (Text × Json)) : List (Text × Json) :=
  members.map fun member => (member.1, g member.2)

theorem mapMembers_id (members : List (Text × Json)) : mapMembers id members = members :=
  List.map_id members

/-- The members with the code points of their names. -/
def coded (members : List (Text × Json)) : Assoc Json (List Nat) :=
  members.map fun member => (CodePoints.ofText member.1, member.2)

theorem named?_eq_some_iff {read : Assoc Json (List Nat)} {members : List (Text × Json)} :
    named? read = some members ↔ read = coded members := by
  induction read generalizing members with
  | nil => cases members <;> simp [named?, coded]
  | cons first rest ih =>
    obtain ⟨codes, v⟩ := first
    cases members with
    | nil => simp [named?, coded, Option.bind_eq_some_iff]
    | cons member members =>
      obtain ⟨k, w⟩ := member
      simp only [named?, coded, Option.bind_eq_bind, Option.bind_eq_some_iff,
        CodePoints.text?_eq_some_iff, ih, List.map_cons, List.cons.injEq, Prod.mk.injEq]
      grind

theorem named?_coded (members : List (Text × Json)) : named? (coded members) = some members :=
  named?_eq_some_iff.2 rfl

/-- Members that are stored one after another under texts make an object. -/
theorem ofMembers_putAll (members : List (Text × Json)) :
    ofMembers (Assoc.putAll (coded members) []) = object (Assoc.putAll members []) := by
  have hstored : Assoc.putAll (coded members) [] = coded (Assoc.putAll members []) :=
    Assoc.putAll_mapKeys (fun _ _ => CodePoints.ofText_injective) members
  rw [hstored, ofMembers, named?_coded]

/-- The members of an object are read back through its closing brace, one after another. -/
theorem readMembers_rows {g : Json → Json} {level last : Nat} {written : List (Text × Json)}
    (hne : written ≠ []) (hall : ∀ member ∈ written, Rereads member.2 (g member.2)) {n : Nat}
    (hn : (rows level written).length < n) (members : Assoc Json (List Nat)) (rest : Text) :
    readMembers n members (rows level written ++ (newline last ++ '\x7d' :: rest)) =
      .ok (Assoc.putAll (coded (mapMembers g written)) members, rest) := by
  induction written generalizing n members with
  | nil => exact absurd rfl hne
  | cons member more ih =>
    obtain ⟨k, v⟩ := member
    obtain ⟨hv, hmore⟩ := List.forall_mem_cons.1 hall
    obtain ⟨m, rfl⟩ : ∃ m, n = m + 1 := ⟨n - 1, by omega⟩
    have hlength := length_memberAt level k v
    cases more with
    | nil =>
      rw [rows_singleton] at hn ⊢
      have hm : (v.indentedAt level).length < m := by omega
      rw [readMembers_memberAt hv hm _ _ (ends_newline last _), afterValue, skipBlanks_newline]
      rfl
    | cons next more =>
      rw [rows_cons] at hn ⊢
      simp only [List.length_append, List.length_cons] at hn
      have hm : (v.indentedAt level).length < m := by omega
      rw [List.append_assoc, List.cons_append, List.append_assoc,
        readMembers_memberAt hv hm _ _ (ends_comma _)]
      show readMembers m _ (skipBlanks (newline level ++ _)) = _
      rw [skipBlanks_newline, skipBlanks_rows]
      exact ih (List.cons_ne_nil _ _) hmore (by omega)
        (Assoc.put (CodePoints.ofText k) (g v) members)

/-! ## Objects -/

theorem indentedAt_object (level : Nat) {members : List (Text × Json)} (hne : members ≠ []) :
    (object members).indentedAt level =
      '\x7b' ::
        (newline (level + 1) ++ (rows (level + 1) members ++ (newline level ++ ['\x7d']))) := by
  cases members with
  | nil => exact absurd rfl hne
  | cons member more => simp [indentedAt, rows]

theorem indented_object {members : List (Text × Json)} (hne : members ≠ []) :
    (object members).indented =
      '\x7b' :: (newline 1 ++ (rows 1 members ++ (newline 0 ++ ['\x7d']))) :=
  indentedAt_object 0 hne

/-- An object is read with the values that its members are read as. -/
theorem readValue_object {g : Json → Json} {members : List (Text × Json)} (hne : members ≠ [])
    (hall : ∀ member ∈ members, Rereads member.2 (g member.2)) (level : Nat) {n : Nat}
    (hn : (rows (level + 1) members).length < n) (rest : Text) :
    readValue (n + 1) ((object members).indentedAt level ++ rest) =
      .ok (object (Assoc.putAll (mapMembers g members) []), rest) := by
  have hrows :
      readMembers n [] (rows (level + 1) members ++ (newline level ++ '\x7d' :: rest)) = _ :=
    readMembers_rows hne hall hn [] rest
  obtain ⟨t, ht⟩ : ∃ t, rows (level + 1) members = '"' :: t := by
    cases members with
    | nil => exact absurd rfl hne
    | cons member more => exact exists_rows_cons (level + 1) member more
  rw [ht] at hrows
  rw [indentedAt_object level hne, ht, List.cons_append, readValue, if_pos rfl, List.append_assoc,
    skipBlanks_newline]
  · -- the first character after the brace is the mark of a name
    have hshape : '"' :: t ++ (newline level ++ ['\x7d']) ++ rest =
        '"' :: t ++ (newline level ++ '\x7d' :: rest) := by
      simp
    rw [hshape]
    show (readMembers n [] ('"' :: t ++ (newline level ++ '\x7d' :: rest)) >>= fun read =>
      pure (ofMembers read.1, read.2)) = _
    rw [hrows, ← ofMembers_putAll]
    rfl
  · decide
  · decide

/-- A written object is read with the values that its members are read as. -/
theorem read_indented_map {g : Json → Json} {members : List (Text × Json)}
    (hnames : (Assoc.keys members).Nodup)
    (hall : ∀ member ∈ members, Rereads member.2 (g member.2)) :
    read (object members).indented = .ok (object (mapMembers g members)) := by
  by_cases hne : members = []
  · subst hne
    rfl
  · have hlength : (rows 1 members).length < (object members).indented.length := by
      rw [indented_object hne]
      simp only [List.length_cons, List.length_append]
      omega
    have hvalue := readValue_object hne hall 0 hlength []
    rw [List.append_nil, ← indented] at hvalue
    have hhead : (object members).indented.head? = some '\x7b' := by rw [indented_object hne]; rfl
    have hskip : skipBlanks (object members).indented = (object members).indented := by
      rw [indented_object hne]
      rfl
    have hkeys : (Assoc.keys (mapMembers g members)).Nodup := by
      rw [mapMembers, Assoc.keys_map]
      exact hnames
    rw [read, hhead, if_neg (by decide), hskip, hvalue, Assoc.putAll_eq_self hkeys]
    rfl

/-- An object with different names is read back if its values are. -/
theorem read_indented {members : List (Text × Json)} (hnames : (Assoc.keys members).Nodup)
    (hall : ∀ member ∈ members, Restores member.2) :
    read (object members).indented = .ok (object members) := by
  have hread :=
    read_indented_map (g := id) hnames fun member hmember => (hall member hmember).rereads
  rwa [mapMembers_id] at hread

theorem notMem_object (level : Nat) {members : List (Text × Json)}
    (hall : ∀ member ∈ members, ∀ level, '\r' ∉ member.2.indentedAt level) :
    '\r' ∉ (object members).indentedAt level := by
  by_cases hne : members = []
  · subst hne
    simp [indentedAt]
  · rw [indentedAt_object level hne]
    simp only [List.mem_cons, List.mem_append, not_or]
    exact ⟨by decide, notMem_newline _, notMem_rows _ hall, notMem_newline _, by decide⟩

/-- An object keeps its written form when its line ends are unified. -/
theorem unifyNewlines_indented {members : List (Text × Json)}
    (hall : ∀ member ∈ members, ∀ level, '\r' ∉ member.2.indentedAt level) :
    Text.unifyNewlines (object members).indented = (object members).indented :=
  Text.unifyNewlines_eq_self (notMem_object 0 hall)

end Json
end Dialogue
