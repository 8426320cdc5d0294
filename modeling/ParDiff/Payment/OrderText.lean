import ParDiff.Payment.NewOrder

/-!
# The order as the server reads it

Up to the name of the user the statement is what it looks like, whatever numeric
amount was asked for: four values, of which the third and the fourth are numbers.
What follows depends on the name, which is put between quotes as it is.
-/

namespace ParDiff.Payment

open Lib Lib.Text Lib.SqlText Lib.Php

/-! ## The amount and the total -/

/-- The tokens of the amount. -/
def amountTokens (n : Numeric) : List Token :=
  n.sign.toList.map .symbol ++ [.word n.numeral.text]

theorem plain_numeral {n : Numeral} (h : n.Valid) : ∀ c ∈ n.text, Plain '\'' c := by
  have hplain : ∀ c, (isHexDigit c ∨ c = '.' ∨ c = '+' ∨ c = '-' ∨ c = 'x' ∨ c = 'X') →
      Plain '\'' c := by
    intro c hc
    constructor <;> rintro rfl <;> revert hc <;> decide
  intro c hc
  refine hplain c ?_
  cases n with
  | decimal whole fraction exponent =>
      rcases Numeral.of_mem_text_decimal h hc with hc | rfl | rfl | rfl | rfl | rfl
      · exact .inl (by simp [isHexDigit, hc])
      all_goals decide
  | hex mark digits =>
      obtain ⟨hmark, -, hdigits⟩ := h
      rcases List.mem_cons.1 hc with rfl | hc
      · decide
      · rcases List.mem_cons.1 hc with rfl | hc
        · rcases hmark with rfl | rfl <;> decide
        · exact .inl (hdigits c hc)

theorem plain_amount {amount : Str} {n : Numeric} (h : numeric amount = some n) :
    ∀ c ∈ amount, Plain '\'' c := by
  obtain ⟨blanks, hblanks, rfl, hvalid, hsign⟩ := of_numeric h
  refine plain_append (fun c hc => ?_) (plain_append (fun c hc => ?_) (plain_numeral hvalid))
  · have hblank := hblanks c hc
    constructor <;> rintro rfl <;> exact absurd hblank (by decide)
  · rcases hsign c (by simpa using hc) with rfl | rfl <;> exact ⟨by decide, by decide⟩

theorem scan_amount {amount : Str} {n : Numeric} (h : numeric amount = some n) :
    scan .start amount = (.word n.numeral.text, n.sign.toList.map .symbol) := by
  obtain ⟨blanks, hblanks, rfl, hvalid, hsign⟩ := of_numeric h
  exact scan_signed hblanks hsign hvalid

theorem one_le_orderTotal (a : Rat) : 1 ≤ orderTotal a := by
  unfold orderTotal
  refine Rat.le_floor_iff.2 ?_
  split <;> simp_all

/-- A large total is eight times the amount. -/
theorem orderTotal_le {a : Rat} (h : 10 ^ 14 ≤ orderTotal a) : (orderTotal a : Rat) ≤ 8 * a := by
  have hfloor := Rat.le_floor_iff.1 (show (10 : Int) ^ 14 ≤ (if getPrice a * getDiscount a < 1 then 1
    else getPrice a * getDiscount a).floor from h)
  have hlarge : ¬getPrice a * getDiscount a < 1 := by
    intro hlt
    rw [if_pos hlt] at hfloor
    norm_num at hfloor
  rw [if_neg hlarge] at hfloor
  have hten : 10 < a := by
    by_contra hle
    rw [getPrice, getDiscount, if_neg hle] at hfloor
    push_cast at hfloor
    nlinarith
  have htotal : (orderTotal a : Rat) ≤ getPrice a * getDiscount a := by
    rw [orderTotal]
    simp only [if_neg hlarge]
    exact Rat.floor_le _
  rw [getPrice, getDiscount, if_pos hten] at htotal
  linarith

theorem clampInt_of_large {z : Int} (h : 2 ^ 31 - 1 ≤ z) : clampInt z = 2 ^ 31 - 1 := by
  unfold clampInt
  omega

/-- The total is printed as a number that the column stores as the total, unless it
is infinite. -/
theorem exists_totalText {a : Rat} (h : getPrice a < doubleLimit) :
    ∃ m : Numeral, m.Valid ∧ totalText a = m.text ∧ Numeral.parse m.text = some m ∧
      storedInt none m = some (clampInt (orderTotal a)) := by
  have hone := one_le_orderTotal a
  obtain ⟨t, ht⟩ := Int.eq_ofNat_of_zero_le (show 0 ≤ orderTotal a by omega)
  have htext : totalText a = floatText (t : Rat) := by
    rw [totalText, if_neg (not_le.2 h), ht]
    rfl
  by_cases hsmall : t < 10 ^ 14
  · have hvalid : (Numeral.decimal (dec t) none none).Valid :=
      ⟨fun c hc => isDigit_of_mem_dec hc, by simp, .inl (dec_ne_nil t), by simp⟩
    refine ⟨.decimal (dec t) none none, hvalid, ?_, Numeral.parse_text hvalid, ?_⟩
    · rw [htext, floatText_of_lt hsmall]
      simp [Numeral.text]
    · have hvalue : (Numeral.decimal (dec t) none none).value = (t : Int) := by
        simp [Numeral.value, dec, Rat.mkRat_one]
      rw [storedInt, hvalue, signed, if_neg (by simp), roundAway_intCast, ht]
  · have hle : (t : Rat) ≤ 8 * a := by
      have := orderTotal_le (a := a) (by omega)
      rw [ht] at this
      exact_mod_cast this
    have hprice : 10 * a < doubleLimit := by
      have := h
      rw [getPrice] at this
      linarith
    have hpos : (0 : Rat) ≤ t := Nat.cast_nonneg t
    obtain ⟨whole, fraction, exponent, hvalid, hfloat, hlo, hhi⟩ :=
      floatText_of_le (n := t) (by omega) (by linarith)
    refine ⟨.decimal whole fraction (some exponent), hvalid, htext.trans hfloat,
      Numeral.parse_text hvalid, ?_⟩
    have hround : (10 : Int) ^ 14 ≤ roundEven (Numeral.decimal whole fraction (some exponent)).value :=
      le_roundEven (by exact_mod_cast hlo)
    rw [storedInt, if_neg (not_le.2 (by linarith)), signed, if_neg (by simp),
      clampInt_of_large (by omega), clampInt_of_large (by omega)]

/-- The total is one word of plain characters, `INF` too. -/
theorem scan_totalText (a : Rat) :
    scan .start (totalText a) = (.word (totalText a), []) ∧ ∀ c ∈ totalText a, Plain '\'' c := by
  by_cases h : getPrice a < doubleLimit
  · obtain ⟨m, hvalid, htext, -⟩ := exists_totalText h
    rw [htext]
    exact ⟨scan_numeral hvalid, plain_numeral hvalid⟩
  · rw [totalText, if_pos (not_lt.1 h)]
    exact ⟨by decide, plain_of_all (by decide)⟩

/-! ## The statement up to the name -/

/-- The values before the name. -/
def valuesBefore (amount : Str) (n : Numeric) : List (List Token) :=
  [[.string (orderSubject amount (totalText n.value))],
    [.string (orderBody amount (totalText n.value))], [.word (totalText n.value)],
    amountTokens n]

/-- The tokens before the literal with the name. -/
def tokensBefore (amount : Str) (n : Numeric) : List Token :=
  insertHeader ++ .symbol '(' :: .string (orderSubject amount (totalText n.value)) ::
    .symbol ',' :: .string (orderBody amount (totalText n.value)) :: .symbol ',' ::
    .word (totalText n.value) :: .symbol ',' :: (amountTokens n ++ [.symbol ','])

theorem plain_orderSubject {amount total : Str} (hamount : ∀ c ∈ amount, Plain '\'' c)
    (htotal : ∀ c ∈ total, Plain '\'' c) : ∀ c ∈ orderSubject amount total, Plain '\'' c := by
  have hfirst : ∀ c ∈ "ParDiff VPN traffic ".toList, Plain '\'' c :=
    plain_of_all (by decide +kernel)
  have hsecond : ∀ c ∈ " GB - ￥".toList, Plain '\'' c :=
    plain_of_all (by decide +kernel)
  exact plain_append (plain_append (plain_append hfirst hamount) hsecond) htotal

theorem plain_orderBody {amount total : Str} (hamount : ∀ c ∈ amount, Plain '\'' c)
    (htotal : ∀ c ∈ total, Plain '\'' c) : ∀ c ∈ orderBody amount total, Plain '\'' c := by
  have hlast : ∀ c ∈ ", http://www.pardiffvpn.com".toList, Plain '\'' c :=
    plain_of_all (by decide +kernel)
  exact plain_append (plain_orderSubject hamount htotal) hlast

/-- A comma ends a number. -/
theorem continues_comma (w : Str) : continues w ',' = false := by
  simp [continues, show isWordChar ',' = false by decide]

theorem tokens_word_comma (w b : Str) :
    tokens (.word w) (',' :: b) = (tokens .start b).map ([.word w, .symbol ','] ++ ·) := by
  have hfresh : fresh ',' = (.start, [.symbol ',']) := by decide
  rw [tokens_word_close (continues_comma w), tokens, next, hfresh]
  simp [Function.comp_def]

/-- A number, and the quote that opens the next value. -/
theorem tokens_amount {amount : Str} {n : Numeric} (h : numeric amount = some n) (rest : Str) :
    tokens .start (", ".toList ++ (amount ++ (", '".toList ++ rest))) =
      (tokens (.quoted '\'' []) rest).map
        (.symbol ',' :: (amountTokens n ++ [.symbol ',']) ++ ·) := by
  have hcomma : scan .start ", ".toList = (.start, [.symbol ',']) := by decide
  have hquote : scan .start " '".toList = (.quoted '\'' [], []) := by decide
  have hnext : tokens (.word n.numeral.text) (", '".toList ++ rest) =
      (tokens .start (" '".toList ++ rest)).map ([.word n.numeral.text, .symbol ','] ++ ·) :=
    tokens_word_comma _ _
  rw [tokens_of_scan hcomma, tokens_of_scan (scan_amount h), hnext, tokens_of_scan hquote]
  simp [amountTokens, Function.comp_def]

/-- A text and the quote that closes it. -/
theorem tokens_text_comma {text : Str} (h : ∀ c ∈ text, Plain '\'' c) (rest : Str) :
    tokens (.quoted '\'' []) (text ++ '\'' :: ',' :: rest) =
      (tokens .start rest).map ([.string text, .symbol ','] ++ ·) := by
  have hfresh : fresh ',' = (.start, [.symbol ',']) := by decide
  rw [tokens_literal h (by decide), tokens, next, hfresh]
  simp [quotedToken, Function.comp_def]

theorem lex_insertText {amount : Str} {n : Numeric} (h : numeric amount = some n) (name : Str) :
    lex (insertText name amount (totalText n.value)) =
      (tokens (.quoted '\'' []) (name ++ "', 'UNPAID', 'VPN')".toList)).map
        (tokensBefore amount n ++ ·) := by
  obtain ⟨hscan, hplain⟩ := scan_totalText n.value
  have hamount := plain_amount h
  have hhead : scan .start
      ("insert into payment_transactions (subject, body, total, traffic, username, status, " ++
        "`type`) VALUES ('").toList =
      (.quoted '\'' [], insertHeader ++ [.symbol '(']) := by decide +kernel
  have hquote : scan .start " '".toList = (.quoted '\'' [], []) := by decide
  have hblank : scan .start " ".toList = (.start, []) := by decide
  unfold insertText lex
  generalize name ++ "', 'UNPAID', 'VPN')".toList = rest
  have hsubject : ∀ b, tokens (.quoted '\'' []) (orderSubject amount (totalText n.value) ++
      ("', '".toList ++ b)) = (tokens .start (" '".toList ++ b)).map
        ([.string (orderSubject amount (totalText n.value)), .symbol ','] ++ ·) :=
    fun b => tokens_text_comma (plain_orderSubject hamount hplain) _
  have hbody : ∀ b, tokens (.quoted '\'' []) (orderBody amount (totalText n.value) ++
      ("', ".toList ++ b)) = (tokens .start (" ".toList ++ b)).map
        ([.string (orderBody amount (totalText n.value)), .symbol ','] ++ ·) :=
    fun b => tokens_text_comma (plain_orderBody hamount hplain) _
  have htotal : ∀ b, tokens (.word (totalText n.value)) (", ".toList ++ b) =
      (tokens .start (", ".toList ++ b)).map ([.word (totalText n.value)] ++ ·) := by
    intro b
    exact tokens_word_close (continues_comma _) _
  rw [tokens_of_scan hhead, hsubject, tokens_of_scan hquote, hbody, tokens_of_scan hblank,
    tokens_of_scan hscan, htotal, tokens_amount h]
  simp [tokensBefore, Function.comp_def]

theorem isSeparator_amountTokens {amount : Str} {n : Numeric} (h : numeric amount = some n) :
    ∀ t ∈ amountTokens n, t.isSeparator = false := by
  obtain ⟨-, -, -, -, hsign⟩ := of_numeric h
  intro t ht
  rcases List.mem_append.1 ht with ht | ht
  · obtain ⟨c, hc, rfl⟩ := List.mem_map.1 ht
    rcases hsign c (by simpa using hc) with rfl | rfl <;> rfl
  · rw [List.mem_singleton.1 ht]
    rfl

/-- The rows of the statement, from the literal with the name on. -/
theorem storedOrders_eq {amount : Str} {n : Numeric} (h : numeric amount = some n) (name : Str) :
    storedOrders name amount =
      (tokens (.quoted '\'' []) (name ++ "', 'UNPAID', 'VPN')".toList)).bind fun ts =>
        (rows (.value 0 (valuesBefore amount n) []) ts).bind fun rs => rs.mapM orderRow := by
  have hrows : ∀ ts, rows .row (((tokensBefore amount n) ++ ts).drop insertHeader.length) =
      rows (.value 0 (valuesBefore amount n) []) ts := by
    intro ts
    have hsingle : ∀ {t : Token}, t.isSeparator = false → ∀ vs ts,
        rows (.value 0 vs []) (t :: .symbol ',' :: ts) = rows (.value 0 (vs ++ [[t]]) []) ts := by
      intro t ht vs ts
      exact rows_value_comma (x := [t]) (by simpa using ht) vs [] ts
    have hamount : ∀ vs ts, rows (.value 0 vs []) (amountTokens n ++ .symbol ',' :: ts) =
        rows (.value 0 (vs ++ [amountTokens n]) []) ts :=
      fun vs ts => rows_value_comma (isSeparator_amountTokens h) vs [] ts
    rw [tokensBefore, List.append_assoc, List.drop_left' rfl]
    simp only [List.cons_append, List.append_assoc, List.nil_append]
    rw [rows, hsingle rfl, hsingle rfl, hsingle rfl, hamount]
    rfl
  have hheader : ∀ ts, insertHeader <+: tokensBefore amount n ++ ts := by
    intro ts
    rw [tokensBefore, List.append_assoc]
    exact List.prefix_append _ _
  rw [storedOrders, newOrder, h]
  simp only [Option.map_some, Option.bind_some, insertedRows, lex_insertText h, Option.bind_map,
    Function.comp_def, hheader, if_true, hrows]

/-! ## Orders as meant -/

/-- One row, for the current user, to be paid. -/
def StoredAsMeant (currentUser amount : Str) : Prop :=
  ∃ row, storedOrders currentUser amount = some [row] ∧ row.username = currentUser ∧
    row.status = some .UNPAID

/-- The server reads a number: it is not spelled with `0X`, and not beyond the doubles. -/
def ReadableNumeral : Numeral → Prop
  | .hex mark _ => mark = 'x'
  | .decimal _ _ none => True
  | .decimal whole fraction (some e) =>
      (Numeral.decimal whole fraction (some e)).value < doubleLimit

/-- Amount and total are both numbers to the server. -/
def Readable (n : Numeric) : Prop :=
  ReadableNumeral n.numeral ∧ getPrice n.value < doubleLimit

theorem storedInt_isSome {sign : Option Char} {n : Numeral} :
    (storedInt sign n).isSome ↔ ReadableNumeral n := by
  cases n with
  | hex mark digits =>
      by_cases h : mark = 'x' <;> simp [storedInt, ReadableNumeral, h]
  | decimal whole fraction exponent =>
      cases exponent with
      | none => simp [storedInt, ReadableNumeral]
      | some e =>
          by_cases h : doubleLimit ≤ (Numeral.decimal whole fraction (some e)).value
          · simp [storedInt, ReadableNumeral, h, not_lt.2 h]
          · simp [storedInt, ReadableNumeral, h, not_le.1 h]

theorem intColumn_amountTokens {amount : Str} {n : Numeric} (h : numeric amount = some n) :
    intColumn (amountTokens n) = storedInt n.sign n.numeral := by
  obtain ⟨-, -, -, hvalid, hsign⟩ := of_numeric h
  cases hn : n.sign with
  | none => simp [amountTokens, hn, intColumn, Numeral.parse_text hvalid]
  | some c => simp [amountTokens, hn, intColumn, Numeral.parse_text hvalid, hsign c hn]

/-- The column for the total. -/
theorem intColumn_totalText {a : Rat} :
    intColumn [.word (totalText a)] =
      if getPrice a < doubleLimit then some (clampInt (orderTotal a)) else none := by
  by_cases h : getPrice a < doubleLimit
  · obtain ⟨m, -, htext, hparse, hstored⟩ := exists_totalText h
    simp [intColumn, htext, hparse, hstored, h]
  · have hinf : Numeral.parse "INF".toList = none := by decide
    rw [totalText, if_pos (not_lt.1 h), intColumn, hinf, if_neg h]
    rfl

/-- The values of a row that is stored. -/
theorem exists_of_orderRow {amount : Str} {n : Numeric} {more : List (List Token)}
    {row : OrderRow} (h : orderRow (valuesBefore amount n ++ more) = some row) :
    ∃ username status type u st, more = [username, status, type] ∧
      textValue username = some u ∧ textValue status = some st ∧
      intColumn [.word (totalText n.value)] = some row.total ∧
      intColumn (amountTokens n) = some row.traffic ∧
      row.username = u.take 200 ∧ row.status = statusColumn st := by
  match more, h with
  | [username, status, type], h =>
      simp only [valuesBefore, List.cons_append, List.nil_append, orderRow,
        Option.bind_eq_some_iff, Option.map_eq_some_iff] at h
      obtain ⟨_, -, _, -, total, htotal, traffic, htraffic, u, hu, st, hst, _, -, rfl⟩ := h
      exact ⟨username, status, type, u, st, rfl, hu, hst, htotal, htraffic, rfl, rfl⟩

/-- The row for a name that is verbatim. -/
theorem storedOrders_verbatim {amount : Str} {n : Numeric} (h : numeric amount = some n)
    {name : Str} (hname : Verbatim '\'' name) :
    storedOrders name amount =
      ([valuesBefore amount n ++ [[.string name], [.string "UNPAID".toList],
        [.string "VPN".toList]]]).mapM orderRow := by
  have htail : tokens .start ", 'UNPAID', 'VPN')".toList =
      some [.symbol ',', .string "UNPAID".toList, .symbol ',', .string "VPN".toList,
        .symbol ')'] := by decide +kernel
  have htokens : tokens (.quoted '\'' []) (name ++ "', 'UNPAID', 'VPN')".toList) =
      some [.string name, .symbol ',', .string "UNPAID".toList, .symbol ',', .string "VPN".toList,
        .symbol ')'] := by
    rw [tokens_of_scan (scan_verbatim (by decide) (by decide) hname [])]
    refine (congrArg (Option.map _) (tokens_quoted_close (c := ',') (by decide) _
      " 'UNPAID', 'VPN')".toList)).trans ?_
    rw [show (',' :: " 'UNPAID', 'VPN')".toList : Str) = ", 'UNPAID', 'VPN')".toList by rfl, htail]
    rfl
  rw [storedOrders_eq h, htokens]
  generalize valuesBefore amount n = values
  simp only [Option.bind_some, Option.map_some, rows, List.nil_append, List.append_assoc,
    List.cons_append]

/-- A literal that takes more of the statement leaves too little for a row. -/
theorem tokens_short_tail {s : Str} {ts : List Token} (hs : s <:+ ", 'UNPAID', 'VPN')".toList)
    (hlength : s.length < ", 'UNPAID', 'VPN')".toList.length)
    (h : tokens .start s = some (.symbol ',' :: ts)) :
    ts = [.string "VPN".toList, .symbol ')'] := by
  have hall : " 'UNPAID', 'VPN')".toList.tails.all (fun s => (tokens .start s).all fun ts =>
      decide (ts.head? = some (.symbol ',') → ts.tail = [.string "VPN".toList, .symbol ')'])) =
        true := by decide +kernel
  have hcomma : ", 'UNPAID', 'VPN')".toList = ',' :: " 'UNPAID', 'VPN')".toList := rfl
  rw [hcomma] at hs hlength
  rcases List.suffix_cons_iff.1 hs with rfl | hsuffix
  · exact absurd hlength (lt_irrefl _)
  · have hmem := List.all_eq_true.1 hall s ((List.mem_tails _ _).2 hsuffix)
    rw [h] at hmem
    exact of_decide_eq_true hmem rfl

/-- The first row that is stored, and where it was read. -/
theorem exists_of_storedOrders {currentUser amount : Str} {n : Numeric}
    (hnumeric : numeric amount = some n) {row : OrderRow} {others : List OrderRow}
    (h : storedOrders currentUser amount = some (row :: others)) :
    ∃ ts w more rs, tokens (.quoted '\'' []) (currentUser ++ "', 'UNPAID', 'VPN')".toList) = some ts ∧
      rows (.value 0 (valuesBefore amount n) []) ts =
        some ((valuesBefore amount n ++ w :: more) :: rs) ∧
      orderRow (valuesBefore amount n ++ w :: more) = some row ∧ rs.mapM orderRow = some others := by
  rw [storedOrders_eq hnumeric] at h
  obtain ⟨ts, hts, hrows⟩ := Option.bind_eq_some_iff.1 h
  obtain ⟨rs, hrs, hmap⟩ := Option.bind_eq_some_iff.1 hrows
  cases rs with
  | nil => simp at hmap
  | cons r rs =>
      obtain ⟨w, more, rfl⟩ := exists_of_rows_value hrs
      simp only [List.mapM_cons, bind, Option.bind_eq_some_iff, pure, Option.some.injEq,
        List.cons.injEq] at hmap
      obtain ⟨row', hrow, others', hothers, rfl, rfl⟩ := hmap
      exact ⟨ts, w, more, rs, hts, hrs, hrow, hothers⟩

/-- A stored order has the total, and an amount the server could read. -/
theorem readable_of_storedOrders {currentUser amount : Str} {n : Numeric}
    (hnumeric : numeric amount = some n) {row : OrderRow} {others : List OrderRow}
    (h : storedOrders currentUser amount = some (row :: others)) :
    Readable n ∧ row.total = clampInt (orderTotal n.value) ∧
      storedInt n.sign n.numeral = some row.traffic := by
  obtain ⟨_, _, _, _, -, -, hrow, -⟩ := exists_of_storedOrders hnumeric h
  obtain ⟨_, _, _, _, _, -, -, -, htotal, htraffic, -⟩ := exists_of_orderRow hrow
  rw [intColumn_amountTokens hnumeric] at htraffic
  rw [intColumn_totalText] at htotal
  obtain ⟨hprice, htotal⟩ := Option.ite_none_right_eq_some.1 htotal
  refine ⟨⟨storedInt_isSome.1 (Option.isSome_iff_exists.2 ⟨_, htraffic⟩), hprice⟩, ?_, htraffic⟩
  exact (Option.some.inj htotal).symm

theorem exists_storedOrders {currentUser amount : Str} {n : Numeric}
    (hnumeric : numeric amount = some n) (hname : Verbatim '\'' currentUser) (h : Readable n) :
    ∃ row, storedOrders currentUser amount = some [row] ∧ row.username = currentUser.take 200 ∧
      row.status = some .UNPAID := by
  obtain ⟨hnumeral, hprice⟩ := h
  have hsome : (storedInt n.sign n.numeral).isSome := storedInt_isSome.2 hnumeral
  obtain ⟨traffic, htraffic⟩ := Option.isSome_iff_exists.1 hsome
  rw [← intColumn_amountTokens hnumeric] at htraffic
  have htotal := intColumn_totalText (a := n.value)
  rw [if_pos hprice] at htotal
  have hstatus : statusColumn "UNPAID".toList = some .UNPAID := by decide
  have hrow : orderRow (valuesBefore amount n ++ [[.string currentUser],
      [.string "UNPAID".toList], [.string "VPN".toList]]) =
        some ⟨(orderSubject amount (totalText n.value)).take 200,
          (orderBody amount (totalText n.value)).take 2000, clampInt (orderTotal n.value),
          traffic, currentUser.take 200, statusColumn "UNPAID".toList,
          ciEq "VPN".toList "VPN".toList⟩ := by
    simp only [valuesBefore, List.cons_append, List.nil_append, orderRow, textValue, literals,
      htotal, htraffic, List.isEmpty_cons, Bool.false_eq_true, if_false, Option.map_some,
      Option.bind_some, List.append_nil]
  have hstored := storedOrders_verbatim hnumeric hname
  rw [List.mapM_cons, hrow] at hstored
  exact ⟨_, hstored, rfl, hstatus⟩

/-- **Orders.**  The order is stored as it is meant exactly for a name without quotes
and backslashes, but for `\%` and `\_`, and an amount the server can read. -/
theorem storedAsMeant_iff {currentUser amount : Str} {n : Numeric}
    (hnumeric : numeric amount = some n) (hlength : currentUser.length ≤ 16) :
    StoredAsMeant currentUser amount ↔ Verbatim '\'' currentUser ∧ Readable n := by
  constructor
  · rintro ⟨row, hstored, hname, -⟩
    refine ⟨?_, (readable_of_storedOrders hnumeric hstored).1⟩
    obtain ⟨ts, username, more, rs, hts, hrs, hr, -⟩ := exists_of_storedOrders hnumeric hstored
    obtain ⟨_, status, type, u, st, hmore, hu, -, -, -, hrow, -⟩ := exists_of_orderRow hr
    obtain ⟨rfl, rfl⟩ := List.cons.inj hmore
    -- the column has room for the name, so the literal is the whole name
    obtain rfl : u = currentUser := by
      have hlength' := congrArg List.length (hrow.symm.trans hname)
      rw [List.length_take] at hlength'
      rw [hname] at hrow
      rw [hrow, List.take_of_length_le]
      omega
    obtain ⟨w, ts', hw, hend | hend⟩ := exists_of_rows_value_text hrs (by simp)
      (isSeparator_of_textValue hu)
    · obtain ⟨rfl, hnext⟩ := hend
      obtain rfl : username = w := by simpa using hw
      rcases verbatim_or_shorter (by decide) hts hu with hverbatim | ⟨s, hs, hshort, htokens⟩
      · exact hverbatim
      · -- only the type is left, and the row has one value too few
        rw [tokens_short_tail hs hshort htokens] at hnext
        simp [rows] at hnext
    · simp at hend
  · rintro ⟨hname, hreadable⟩
    obtain ⟨row, hstored, husername, hstatus⟩ := exists_storedOrders hnumeric hname hreadable
    exact ⟨row, hstored, husername.trans (List.take_of_length_le (by omega)), hstatus⟩

theorem order_of_ann_stored : StoredAsMeant "ann".toList "5".toList := by
  have hnumeric : numeric "5".toList = some ⟨none, .decimal "5".toList none none⟩ := by decide
  refine (storedAsMeant_iff hnumeric (by decide)).2 ⟨?_, trivial, by decide +kernel⟩
  simp [Verbatim]

/-- The row that a user of this name gets: nobody's, and paid. -/
def forgedRow : OrderRow :=
  ⟨"ParDiff VPN traffic 5 GB - ￥45".toList,
    "ParDiff VPN traffic 5 GB - ￥45, http://www.pardiffvpn.com".toList, 45, 5, [], some .PAID, true⟩

theorem forged_paid_order :
    "','PAID','VPN')#".toList.length = 16 ∧
      storedOrders "','PAID','VPN')#".toList "5".toList = some [forgedRow] ∧
      ¬StoredAsMeant "','PAID','VPN')#".toList "5".toList := by
  have hnumeric : numeric "5".toList = some ⟨none, .decimal "5".toList none none⟩ := by decide
  have hstored : storedOrders "','PAID','VPN')#".toList "5".toList = some [forgedRow] := by
    rw [storedOrders_eq hnumeric]
    decide +kernel
  refine ⟨by decide, hstored, ?_⟩
  rintro ⟨row, hrow, -, hstatus⟩
  rw [hstored] at hrow
  obtain rfl : forgedRow = row := by simpa using hrow
  exact absurd hstatus (by decide)

end ParDiff.Payment
