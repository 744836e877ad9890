import ReplicaHosting.Toml.Lines

/-! Reading a document of lines. However its texts are written, each line is read as an entry with
its key and its value, and the document as a table of these entries, unless a key occurs twice. -/
namespace ReplicaHosting.Toml

/-! ## Texts -/

theorem Numbers.numbered {ds : List Char} {c : Char} (h : Numbers ds c) :
    numbered? ds = some c := by
  have scalar : (c.toNat < 0xD800 || (0xDFFF < c.toNat && c.toNat < 0x110000)) = true := by
    simp only [Bool.or_eq_true, Bool.and_eq_true, decide_eq_true_eq]
    exact c.valid
  rw [numbered?, if_pos h.1, h.2, scalarChar?, if_pos scalar, Char.ofNat_toNat]

theorem Writes.basicText {c : Char} {w : List Char} (h : Writes c w) (r : List Char) :
    basicText (w ++ r) = (basicText r).map fun x => (c :: x.1, x.2) := by
  cases h with
  | plain visible unquoted unslashed =>
    rw [List.singleton_append, Toml.basicText.eq_def]
    simp [unquoted, unslashed, visible]
  | lettered e letter =>
    simp only [letters, List.mem_cons, Prod.mk.injEq, List.not_mem_nil, or_false] at letter
    rcases letter with ⟨rfl, rfl⟩ | ⟨rfl, rfl⟩ | ⟨rfl, rfl⟩ | ⟨rfl, rfl⟩ | ⟨rfl, rfl⟩ | ⟨rfl, rfl⟩ |
      ⟨rfl, rfl⟩
    all_goals
      rw [Toml.basicText.eq_def]
      rfl
  | short ds four number =>
    match ds, four with
    | [a, b, c, d], _ =>
      rw [Toml.basicText.eq_def]
      simp [number.numbered]
  | long ds eight number =>
    match ds, eight with
    | [a, b, c, d, e, f, g, h], _ =>
      rw [Toml.basicText.eq_def]
      simp [number.numbered]

theorem WritesAll.basicText {cs w : List Char} (h : WritesAll cs w) (r : List Char) :
    basicText (w ++ '\x22' :: r) = some (cs, r) := by
  induction h with
  | nil =>
    rw [List.nil_append, Toml.basicText.eq_def]
    rfl
  | cons first rest ih => rw [List.append_assoc, first.basicText, ih, Option.map_some]

/-- A written text does not begin with a quote, so two quotes in front are never three. -/
theorem WritesAll.head? {cs w : List Char} (h : WritesAll cs w) : w.head? ≠ some '\x22' := by
  cases h with
  | nil => simp
  | cons first rest =>
    cases first with
    | plain visible unquoted unslashed => simpa using unquoted
    | _ => simp

theorem WritesAll.quotedText {cs w : List Char} (h : WritesAll cs w) {r : List Char}
    (ended : r.head? ≠ some '\x22') :
    quotedText? ('\x22' :: (w ++ '\x22' :: r)) = some (String.ofList cs, r) := by
  have short (t : List Char) : w ++ '\x22' :: r ≠ '\x22' :: '\x22' :: t := by
    intro same
    cases w with
    | nil => exact ended (by rw [(List.cons.inj same).2]; rfl)
    | cons c w => exact h.head? (by rw [(List.cons.inj same).1]; rfl)
  unfold quotedText?
  split
  · rename_i t same
    exact absurd (List.cons.inj same).2 (short t)
  · rename_i same
    cases same
  · rename_i t _ same
    rw [← (List.cons.inj same).2, h.basicText]
    rfl
  · rename_i same
    cases same
  · rename_i other _
    exact absurd rfl (other _)

theorem value?_quoted (depth : Nat) (s : List Char) :
    value? depth ('\x22' :: s) =
      (quotedText? ('\x22' :: s)).map fun x =>
        (.scalar (.text x.1) (stretch ('\x22' :: s) x.2), x.2) := by
  have scalar : scalar? ('\x22' :: s) =
      (quotedText? ('\x22' :: s)).map fun x => (.text x.1, x.2) := rfl
  have value : value? depth ('\x22' :: s) =
      (scalar? ('\x22' :: s)).map fun x =>
        (.scalar x.1 (stretch ('\x22' :: s) x.2), x.2) := by
    cases depth <;> rfl
  rw [value, scalar, Option.map_map]
  rfl

/-! ## Lines -/

/-- What a bare key does not begin with: space, quotes, and what begins a comment, a line break, a
header or the mark of the byte order. -/
def startsNoKey : List Char :=
  [' ', '\t', '\x22', '\x27', '#', '\n', '\r', '[', '\ufeff']

theorem isBareKey_startsNoKey : ∀ d ∈ startsNoKey, isBareKey d = false := by
  simp [startsNoKey, isBareKey]

namespace Line

variable (l : Line)

theorem exists_key : ∃ c k, l.key.toList = c :: k ∧ ∀ d ∈ startsNoKey, c ≠ d := by
  cases letters : l.key.toList with
  | nil => exact absurd (String.toList_eq_nil_iff.mp letters) l.named
  | cons c k =>
    refine ⟨c, k, rfl, ?_⟩
    rintro d mem rfl
    have bare := l.bare c (letters ▸ List.mem_cons_self)
    rw [isBareKey_startsNoKey c mem] at bare
    cases bare

theorem skipSpace_key (r : List Char) : skipSpace (l.key.toList ++ r) = l.key.toList ++ r := by
  obtain ⟨c, k, letters, other⟩ := l.exists_key
  have solid : isSpace c = false := by
    simp [isSpace, other ' ' (by decide), other '\t' (by decide)]
  rw [letters, List.cons_append, skipSpace, List.dropWhile_cons, solid]
  rfl

theorem shortText?_key (r : List Char) : shortText? (l.key.toList ++ r) = none := by
  obtain ⟨c, k, letters, other⟩ := l.exists_key
  rw [letters, List.cons_append, shortText?]
  · rintro t same
    exact other '\x22' (by decide) (List.cons.inj same).1
  · rintro t same
    exact other '\x27' (by decide) (List.cons.inj same).1

theorem simpleKey?_key (r : List Char) :
    ∃ place, simpleKey? (l.key.toList ++ ' ' :: r) = some (⟨l.key, place⟩, ' ' :: r) := by
  have taken : (l.key.toList ++ ' ' :: r).takeWhile isBareKey = l.key.toList := by
    rw [List.takeWhile_append_of_pos l.bare]
    simp [isBareKey]
  have left : (l.key.toList ++ ' ' :: r).dropWhile isBareKey = ' ' :: r := by
    rw [List.dropWhile_append_of_pos l.bare]
    simp [isBareKey]
  obtain ⟨c, k, letters, -⟩ := l.exists_key
  refine ⟨stretch (l.key.toList ++ ' ' :: r) (' ' :: r), ?_⟩
  simp only [simpleKey?, l.shortText?_key, taken, left, String.ofList_toList]
  rw [letters]
  rfl

theorem path?_key (r : List Char) :
    ∃ place, path? (l.key.toList ++ ' ' :: '=' :: r) = some (⟨[], ⟨l.key, place⟩⟩, '=' :: r) := by
  obtain ⟨place, key⟩ := l.simpleKey?_key ('=' :: r)
  have sign : skipSpace (' ' :: '=' :: r) = '=' :: r := rfl
  refine ⟨place, ?_⟩
  simp only [path?, pathParts?, l.skipSpace_key, key, sign]
  rfl

theorem text_append (r : List Char) :
    l.text ++ r =
      l.key.toList ++ ' ' :: '=' :: ' ' :: '\x22' :: (l.written ++ '\x22' :: r) := by
  simp [text]

theorem text_ne {d : Char} (mem : d ∈ startsNoKey) (r u : List Char) : l.text ++ r ≠ d :: u := by
  obtain ⟨c, k, letters, other⟩ := l.exists_key
  rw [text_append, letters]
  exact fun same => other d mem (List.cons.inj same).1

theorem entry?_text {r : List Char} (ended : r.head? ≠ some '\x22') :
    ∃ place place', entry? (l.text ++ r) =
      some (.entry ⟨[], ⟨l.key, place⟩⟩ (.scalar (.text l.value) place'), r) := by
  obtain ⟨place, path⟩ := l.path?_key (' ' :: '\x22' :: (l.written ++ '\x22' :: r))
  have spaced (s : List Char) : skipSpace (' ' :: '\x22' :: s) = '\x22' :: s := rfl
  have read := l.writes.quotedText ended
  refine ⟨place, stretch ('\x22' :: (l.written ++ '\x22' :: r)) r, ?_⟩
  simp only [text_append, entry?, path, spaced, value?_quoted, read, String.ofList_toList,
    Option.map_some]

theorem statements?_text {r t : List Char} (ended : r.head? ≠ some '\x22')
    (behind : endLine? r = some t) (fuel : Nat) :
    ∃ place place', statements? (fuel + 1) (l.text ++ r) =
      (statements? fuel t).map fun xs =>
        .entry ⟨[], ⟨l.key, place⟩⟩ (.scalar (.text l.value) place') :: xs := by
  obtain ⟨place, place', entry⟩ := l.entry?_text ended
  have solid : skipSpace (l.text ++ r) = l.text ++ r := by rw [text_append, l.skipSpace_key]
  refine ⟨place, place', ?_⟩
  rw [statements?, solid]
  split
  · rename_i same
    simp [text] at same
  · rename_i same
    exact absurd same (l.text_ne (by decide) r _)
  · rename_i same
    exact absurd same (l.text_ne (by decide) r _)
  · rename_i same
    exact absurd same (l.text_ne (by decide) r _)
  · dsimp only
    -- What is read is an entry: for a header there would have to be a bracket in front.
    split
    · rename_i read
      split at read
      · exact absurd ‹_› (l.text_ne (by decide) r _)
      · rw [entry] at read
        cases read
    · rename_i read
      split at read
      · exact absurd ‹_› (l.text_ne (by decide) r _)
      · rw [entry] at read
        cases read
        rw [behind]

theorem endLine?_lineBreak (r : List Char) : endLine? (l.lineBreak ++ r) = some r := by
  unfold lineBreak
  cases l.carriage <;> rfl

theorem lineBreak_unquoted (r : List Char) : (l.lineBreak ++ r).head? ≠ some '\x22' := by
  unfold lineBreak
  cases l.carriage <;> simp

end Line

/-! ## Documents -/

def plainEntry (e : Key × Item) : Statement := .entry ⟨[], e.1⟩ e.2

def content (e : Key × Item) : String × Option String :=
  (e.1.name, match e.2 with
    | .scalar (.text s) _ => some s
    | _ => none)

theorem name_of_content {e : Key × Item} {k v : String} (told : content e = (k, some v)) :
    e.1.name = k := congrArg Prod.fst told

theorem eq_text_of_content {e : Key × Item} {k v : String} (told : content e = (k, some v)) :
    ∃ place, e.2 = .scalar (.text v) place := by
  have value := congrArg Prod.snd told
  simp only [content] at value
  split at value
  · rename_i place item
    cases value
    exact ⟨place, item⟩
  · cases value

/-- The entries say what the lines say, wherever they have been read. -/
def Render (es : List (Key × Item)) (ls : List Line) : Prop :=
  es.map content = ls.map fun l => (l.key, some l.value)

theorem statements?_line {l : Line} {r t : List Char} (unquoted : r.head? ≠ some '\x22')
    (behind : endLine? r = some t) {fuel : Nat} {es : List (Key × Item)} {ls : List Line}
    (rest : statements? fuel t = some (es.map plainEntry)) (same : Render es ls) :
    ∃ es, statements? (fuel + 1) (l.text ++ r) = some (es.map plainEntry) ∧
      Render es (l :: ls) := by
  obtain ⟨place, place', read⟩ := l.statements?_text unquoted behind fuel
  refine ⟨(⟨l.key, place⟩, .scalar (.text l.value) place') :: es, ?_, ?_⟩
  · rw [read, rest]
    rfl
  · exact congrArg (List.cons (l.key, some l.value)) same

theorem statements?_nil {fuel : Nat} (enough : 0 < fuel) : statements? fuel [] = some [] := by
  obtain ⟨fuel, rfl⟩ := Nat.exists_eq_succ_of_ne_zero (Nat.ne_zero_of_lt enough)
  rfl

theorem statements?_linesText (ended : Bool) (ls : List Line) {fuel : Nat}
    (enough : ls.length < fuel) :
    ∃ es, statements? fuel (linesText ended ls) = some (es.map plainEntry) ∧ Render es ls := by
  obtain ⟨fuel, rfl⟩ := Nat.exists_eq_succ_of_ne_zero (Nat.ne_zero_of_lt enough)
  fun_induction linesText ended ls generalizing fuel with
  | case1 => exact ⟨[], rfl, rfl⟩
  | case2 l =>
    have empty : statements? fuel [] = some (List.map plainEntry []) :=
      statements?_nil (Nat.lt_of_succ_lt_succ enough)
    cases ended with
    | false => exact statements?_line (by simp) rfl empty rfl
    | true =>
      have behind := l.endLine?_lineBreak []
      have unquoted := l.lineBreak_unquoted []
      rw [List.append_nil] at behind unquoted
      exact statements?_line unquoted behind empty rfl
  | case3 l m ls ih =>
    obtain ⟨fuel, rfl⟩ := Nat.exists_eq_succ_of_ne_zero
      (Nat.ne_zero_of_lt (Nat.lt_of_succ_lt_succ enough))
    obtain ⟨es, read, same⟩ := ih fuel (Nat.lt_of_succ_lt_succ enough)
    exact statements?_line (l.lineBreak_unquoted _) (l.endLine?_lineBreak _) read same

def names (es : List (Key × Item)) : List String := es.map fun e => e.1.name

theorem add?_plain (es : List (Key × Item)) (e : Key × Item) :
    Draft.add? { current := { entries := es } } (plainEntry e) =
      if e.1.name ∈ names es then none else some { current := { entries := es ++ [e] } } := by
  have put : Draft.add? { current := { entries := es } } (plainEntry e) =
      (if Table.has { entries := es } e.1.name then none
        else some (Table.append { entries := es } e.1 e.2)).bind fun t =>
          some { current := t } := rfl
  have met : Table.has { entries := es } e.1.name = true ↔ e.1.name ∈ names es := by
    simp [Table.has, names]
  rw [put]
  by_cases mem : e.1.name ∈ names es
  · rw [if_pos mem, if_pos (met.mpr mem)]
    rfl
  · rw [if_neg mem, if_neg (mt met.mp mem)]
    rfl

theorem foldlM_add?_plain (old new : List (Key × Item)) (distinct : (names old).Nodup) :
    (new.map plainEntry).foldlM Draft.add? { current := { entries := old } } =
      if (names (old ++ new)).Nodup then some { current := { entries := old ++ new } }
      else none := by
  induction new generalizing old with
  | nil =>
    rw [List.append_nil, if_pos distinct]
    rfl
  | cons e new ih =>
    have names_eq : names (old ++ e :: new) = names old ++ e.1.name :: names new := by simp [names]
    rw [List.map_cons, List.foldlM_cons, add?_plain]
    by_cases mem : e.1.name ∈ names old
    · have twice : ¬(names (old ++ e :: new)).Nodup := by
        rw [names_eq]
        intro all
        exact (List.nodup_append.mp all).2.2 _ mem _ List.mem_cons_self rfl
      rw [if_pos mem, if_neg twice]
      rfl
    · have longer : (names (old ++ [e])).Nodup := by
        simp only [names, List.map_append, List.map_cons, List.map_nil]
        refine List.nodup_append.mpr ⟨distinct, by simp, ?_⟩
        rintro a old b new rfl
        exact mem (List.mem_singleton.mp new ▸ old)
      rw [if_neg mem]
      simpa using ih _ longer

theorem ofStatements?_plain (es : List (Key × Item)) :
    Table.ofStatements? (es.map plainEntry) =
      if (names es).Nodup then some { entries := es } else none := by
  have built : (es.map plainEntry).foldlM Draft.add? {} =
      if (names es).Nodup then some { current := { entries := es } } else none :=
    foldlM_add?_plain [] es List.nodup_nil
  rw [Table.ofStatements?, built]
  split <;> rfl

theorem Render.names {es : List (Key × Item)} {ls : List Line} (h : Render es ls) :
    names es = ls.map Line.key := by
  have firsts := congrArg (List.map Prod.fst) h
  simpa [Toml.names, content, Function.comp_def] using firsts

theorem linesText_cons (ended : Bool) (l : Line) (ls : List Line) :
    ∃ r, linesText ended (l :: ls) = l.text ++ r := by
  cases ls with
  | nil => exact ⟨_, rfl⟩
  | cons m ls => exact ⟨_, rfl⟩

theorem dropMark_linesText (ended : Bool) (ls : List Line) :
    dropMark (linesText ended ls) = linesText ended ls := by
  cases ls with
  | nil => rfl
  | cons l ls =>
    obtain ⟨r, text⟩ := linesText_cons ended l ls
    rw [text, dropMark]
    exact fun t => l.text_ne (by decide) r t

theorem length_le_linesText (ended : Bool) (ls : List Line) :
    ls.length ≤ (linesText ended ls).length := by
  have long (l : Line) : 0 < l.text.length := by
    simp only [Line.text, List.length_append, List.length_singleton]
    omega
  fun_induction linesText ended ls with
  | case1 => exact Nat.le_refl 0
  | case2 l =>
    have first := long l
    rw [List.length_append, List.length_singleton]
    omega
  | case3 l m ls ih =>
    have first := long l
    rw [List.length_append, List.length_append, List.length_cons]
    omega

/-- A document of lines is read as the table of their entries; it is refused if a key occurs
twice. -/
theorem parse?_linesText (ended : Bool) (ls : List Line) :
    ∃ es, Render es ls ∧ parse? (linesText ended ls) =
      if (ls.map Line.key).Nodup then some { entries := es } else none := by
  obtain ⟨es, read, same⟩ := statements?_linesText ended ls
    (Nat.lt_succ_of_le (length_le_linesText ended ls))
  refine ⟨es, same, ?_⟩
  rw [parse?, dropMark_linesText, read, Option.bind_some, ofStatements?_plain, same.names]

end ReplicaHosting.Toml
