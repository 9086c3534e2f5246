import Wsd.Http.Ending
import Wsd.Http.Message
import Wsd.Http.Reads

namespace wsd

/-- The field with whose name a line's name starts. -/
def fieldOf (name : List UInt8) : Option Field :=
  Field.all.find? fun F => decide (StartsName name F)

/-- From `p` on the memory holds the bytes, and behind them zeros only. -/
structure EndsWith (data : Memory UInt8) (p : Nat) (rest : List UInt8) : Prop where
  bytes : data.window p rest.length = rest
  le : p + rest.length ≤ SKB_SIZE
  zero : ∀ i, p + rest.length ≤ i → data i = 0

namespace EndsWith

variable {data : Memory UInt8} {p : Nat} {front rest name value : List UInt8}

theorem lt (h : EndsWith data p rest) {i : Nat} (hne : data i ≠ 0) : i < p + rest.length := by
  by_contra hge
  exact hne (h.zero i (Nat.not_lt.mp hge))

theorem mem (h : EndsWith data p rest) {i : Nat} (hle : p ≤ i) (hlt : i < p + rest.length) : data i ∈ rest := by
  rw [← h.bytes, List.mem_iff_getElem]
  refine ⟨i - p, by rw [Memory.length_window]; omega, ?_⟩
  rw [Memory.getElem_window, Nat.add_sub_cancel' hle]

theorem append (h : EndsWith data p (front ++ rest)) :
    data.window p front.length = front ∧ EndsWith data (p + front.length) rest := by
  have hbytes := h.bytes
  have hle := h.le
  rw [List.length_append] at hle
  rw [List.length_append, Memory.window_add] at hbytes
  obtain ⟨hfront, hrest⟩ := List.append_inj hbytes (Memory.length_window ..)
  refine ⟨hfront, hrest, by omega, fun i hi => h.zero i ?_⟩
  rw [List.length_append]
  omega

theorem drop (h : EndsWith data p rest) {n : Nat} (hn : n ≤ rest.length) : EndsWith data (p + n) (rest.drop n) := by
  rw [← List.take_append_drop n rest] at h
  have hrest := h.append.2
  rwa [List.length_take, Nat.min_eq_left hn] at hrest

/-- A fresh buffer into which the bytes have been put. -/
theorem ofBytes (h : rest.length ≤ SKB_SIZE) : EndsWith (Skb.ofBytes rest).data 0 rest where
  bytes := Memory.window_store_self _ 0 rest
  le := by omega
  zero i hi := by
    exact Memory.store_apply_of_le _ _ hi

/-- A line of a name, a colon and a value, and what follows it. -/
theorem line (h : EndsWith data p (lineBytes (name, value) ++ rest))
    (hname : ∀ c ∈ name, is_rfc7230_header_field c = true) :
    FieldLine data p name value ∧ data (p + (name.length + (value.length + 1))) = CR ∧
      data (p + (name.length + (value.length + 1)) + 1) = LF ∧
      EndsWith data (p + (name.length + (value.length + 1)) + 2) rest := by
  have hsplit : lineBytes (name, value) ++ rest = (name ++ COLON :: value) ++ ([CR, LF] ++ rest) := by
    simp [lineBytes]
  have hlen : (name ++ COLON :: value).length = name.length + (value.length + 1) := by
    rw [List.length_append, List.length_cons]
  rw [hsplit] at h
  obtain ⟨hline, hafter⟩ := h.append
  rw [hlen] at hline hafter
  obtain ⟨hend, hrest⟩ := hafter.append
  rw [List.length_cons, List.length_singleton, Memory.window_succ, Memory.window_succ] at hend
  obtain ⟨hcr, hend⟩ := List.cons.inj hend
  have hle := hafter.le
  rw [List.length_append, List.length_cons, List.length_singleton] at hle
  exact ⟨⟨hname, hline, by omega⟩, hcr, (List.cons.inj hend).1, hrest⟩

end EndsWith

section Forward

variable {data : Memory UInt8} {p len : Nat} {name value rest : List UInt8} {req : HttpReq} {e : WalkEnd}

theorem FieldLine.field_at_eq (h : FieldLine data p name value) : field_at data p = fieldOf name := by
  unfold field_at fieldOf
  congr 1
  funext F
  rw [Bool.eq_iff_iff, decide_eq_true_iff]
  exact h.compare_iff F

/-- A walk stops where it is, or takes a line. -/
theorem HeaderWalk.first (h : HeaderWalk data req (some p) e) :
    e.hreq = req ∨ ∃ (len : Nat) (rv' : Int) (req' : HttpReq), 0 < len ∧ Tokenised data p len ∧
      parse_header_field data { p := some p, len } req = .ok (rv', req') ∧ HeaderWalk data req' (some (p + len + 2)) e := by
  cases h with
  | stop htok hrv => exact .inl rfl
  | @field _ req' _ prev' rv rv' tok e1 _ htok hrv hparse hrv' hrest =>
    obtain ⟨hneg, -⟩ | ⟨len, rfl, rfl, rfl, hline⟩ := http_header_tok_inv htok
    · omega
    · exact .inr ⟨len, rv', req', by omega, hline, hparse, hrest⟩

/-- A walk which goes on behind a line has tokenised it, and has parsed its field. -/
theorem HeaderWalk.line (h : HeaderWalk data req (some p) e) (hgo : e.hreq ≠ req) (hline : FieldLine data p name value)
    (hcr : data (p + (name.length + (value.length + 1))) = CR) (hvalue : CR ∉ value) :
    (∀ c ∈ value, is_rfc7230_field_value c = true) ∧
      HeaderWalk data (match fieldOf name with
        | some F => F.assign (lineValue p name value) req
        | none => req) (some (p + (name.length + (value.length + 1)) + 2)) e := by
  obtain hstop | ⟨len, rv', req', -, htok, hparse, hrest⟩ := h.first
  · exact absurd hstop hgo
  obtain ⟨hcolon, hbytes⟩ := hline.rest_eq
  have hin (i : Nat) (hi : i < name.length + (value.length + 1)) : data (p + i) ≠ CR := by
    intro hat
    have hmem : data (p + i) ∈ data.window p (name.length + (value.length + 1)) := by
      rw [List.mem_iff_getElem]
      exact ⟨i, by rwa [Memory.length_window], Memory.getElem_window ..⟩
    rw [hline.bytes, hat, List.mem_append, List.mem_cons] at hmem
    obtain hmem | hmem | hmem := hmem
    · have hclass := hline.name_class CR hmem
      exact absurd hclass (by decide)
    · exact absurd hmem (by decide)
    · exact hvalue hmem
  -- The line ends at the first carriage return.
  obtain rfl : len = name.length + (value.length + 1) := by
    rcases Nat.lt_trichotomy len (name.length + (value.length + 1)) with hless | heq | hmore
    · exact absurd htok.cr (hin len hless)
    · exact heq
    · exact absurd hcr (htok.ne_cr hmore)
  constructor
  · intro c hc
    obtain ⟨i, hi, rfl⟩ := List.mem_iff_getElem.mp hc
    have hat : data (p + (name.length + 1 + i)) = value[i] := by
      have hget := List.getElem_of_eq hbytes (i := i) (by rwa [Memory.length_window])
      rw [Memory.getElem_window] at hget
      rw [← hget, ← Nat.add_assoc]
    cases htok.line with
    | name hname =>
      have hclass := hname name.length (by omega)
      rw [hcolon] at hclass
      exact absurd hclass (by decide)
    | field colon hlt hname hcol hrest =>
      have hsame : colon = name.length := by
        rcases Nat.lt_trichotomy colon name.length with hless | heq | hmore
        · have hmem : data (p + colon) ∈ name := by
            rw [← hline.name_eq, List.mem_iff_getElem]
            exact ⟨colon, by rwa [Memory.length_window], Memory.getElem_window ..⟩
          have hclass := hline.name_class _ hmem
          rw [hcol] at hclass
          exact absurd hclass (by decide)
        · exact heq
        · have hclass := hname name.length hmore
          rw [hcolon] at hclass
          exact absurd hclass (by decide)
      rw [← hat]
      exact hrest _ (by omega) (by omega)
  · have hparse' := hline.parse req
    rw [hline.field_at_eq] at hparse'
    have hsame := hparse.symm.trans hparse'
    cases hfield : fieldOf name with
    | none =>
      rw [hfield] at hsame
      cases hsame
      exact hrest
    | some F =>
      rw [hfield] at hsame
      cases hsame
      exact hrest

/-- A walk does not get past a line without a colon, if none follows. -/
theorem HeaderWalk.not_name (hend : EndsWith data p (name ++ CR :: LF :: rest))
    (hname : ∀ c ∈ name, is_rfc7230_header_field c = true) (hne : name ≠ []) (hrest : COLON ∉ rest) :
    ¬ HeaderWalk data req (some p) e := by
  intro h
  have hcolon (i : Nat) (hi : p ≤ i) : data i ≠ COLON := by
    intro hat
    have hmem := hend.mem hi (hend.lt (by rw [hat]; decide))
    rw [hat, List.mem_append, List.mem_cons, List.mem_cons] at hmem
    obtain hmem | hmem | hmem | hmem := hmem
    · exact absurd (hname COLON hmem) (by decide)
    · exact absurd hmem (by decide)
    · exact absurd hmem (by decide)
    · exact hrest hmem
  obtain ⟨hbytes, hafter⟩ := hend.append
  have hle := hafter.le
  have htwo := hafter.bytes
  rw [List.length_cons, List.length_cons] at hle
  rw [List.length_cons, List.length_cons, Memory.window_succ, Memory.window_succ] at htwo
  obtain ⟨hcr, htwo⟩ := List.cons.inj htwo
  have hlf := (List.cons.inj htwo).1
  have hscan := scan_window hbytes hname (by rw [hcr]; decide) (by omega)
  have hlen : p + name.length + 1 - p - 1 = name.length := by omega
  have hint : i32 name.length = name.length := i32_of_lt (by unfold SKB_SIZE at hle; omega)
  have htok : http_header_tok data none (some p) =
      .ok (name.length, { p := some p, len := name.length }, some (p + name.length + 2), .WSD_CHECKERRNO) := by
    unfold http_header_tok
    simp only [Option.isNone_none, if_true, Option.isNone_some, Bool.false_eq_true, if_false, hscan, Except.ok_bind]
    rw [if_pos (by rw [Nat.add_sub_cancel]; exact hcolon _ (Nat.le_add_right _ _))]
    simp only [Except.pure_eq_ok, Except.ok_bind, Nat.add_sub_cancel, hcr, hlf, and_self, if_true, hlen, hint]
  have hpos := List.length_pos_of_ne_nil hne
  cases h with
  | stop htok' hrv =>
    rw [htok] at htok'
    cases htok'
    omega
  | field htok' hrv hparse hrv' hwalk =>
    rw [htok] at htok'
    cases htok'
    obtain ⟨cur, hcur, -⟩ := Except.bind_eq_ok_iff.mp hparse
    obtain ⟨n, -, -, -, hat⟩ := skip_while_inv hcur
    exact hcolon (p + n) (Nat.le_add_right _ _) (by simpa using hat)

end Forward

section Room

variable {data : Memory UInt8} {p : Nat} {rest : List UInt8} {req : HttpReq} {e : WalkEnd}

/-- A parsed line which assigns a value has room for the field's name, the colon and the value. -/
theorem parse_header_field_room {len : Nat} {rv : Int} {req' : HttpReq} (hline : Tokenised data p len)
    (h : parse_header_field data { p := some p, len } req = .ok (rv, req')) :
    req' = req ∨ ∃ (F : Field) (value : Chunk), req' = F.assign value req ∧
      (SKB_SIZE < value.len ∨ F.name.length + 1 + value.len ≤ len) := by
  have hlt := hline.lt
  have hscan : ∃ cur, skip_while (fun c => c != COLON) data (SKB_SIZE - p) p = .ok cur := by
    unfold parse_header_field at h
    obtain ⟨cur, hcur, -⟩ := Except.bind_eq_ok_iff.mp h
    exact ⟨cur, hcur⟩
  obtain ⟨cur, hscan⟩ := hscan
  rw [parse_header_field_eq req rfl hscan] at h
  cases hfield : field_at data p with
  | none =>
    rw [hfield] at h
    cases h
    exact .inl rfl
  | some F =>
    rw [hfield] at h
    cases h
    refine .inr ⟨F, _, rfl, ?_⟩
    obtain ⟨n, hn, rfl, -, hcolon⟩ := skip_while_inv hscan
    have hused : p + n + 1 - p = n + 1 := by omega
    -- The colon stands behind the field's name.
    have hname : F.name.length ≤ n := by
      by_contra hshort
      have hsame := (strncasecmp_eq_iff F.name).mp (by simpa using List.find?_some hfield)
      have hat := congrArg (fun l => l[n]?) hsame
      have hin : n < F.name.length := Nat.not_le.mp hshort
      rw [List.getElem?_map, List.getElem?_map, List.getElem?_eq_getElem (by rwa [Memory.length_window]),
        List.getElem?_eq_getElem hin, Memory.getElem_window, Option.map_some, Option.map_some,
        Option.some.injEq] at hat
      have hcol : data (p + n) = COLON := by simpa using hcolon
      rw [hcol] at hat
      exact F.name_stop (List.getElem_mem hin) (.inl rfl) hat
    simp only [hused]
    unfold SKB_SIZE at *
    unfold u32
    by_cases hcolon : n < len
    · right
      omega
    · left
      omega

theorem HeaderWalk.req_target {prev : Option Nat} (h : HeaderWalk data req prev e) :
    e.hreq.req_target = req.req_target := by
  induction h with
  | stop htok hrv => rfl
  | @field req req' prev prev' rv rv' tok e1 e htok hrv hparse hrv' hrest ih =>
    rw [ih]
    cases prev with
    | none =>
      cases htok
      exact absurd hrv (by decide)
    | some p =>
      obtain ⟨hneg, -⟩ | ⟨len, rfl, rfl, rfl, hline⟩ := http_header_tok_inv htok
      · omega
      obtain rfl | ⟨F, value, rfl, -⟩ := parse_header_field_room hline hparse
      · rfl
      · cases F with
        | connection =>
          simp only [Field.assign]
          split <;> rfl
        | _ => rfl

/-- What a walk needs of the bytes for the key and the version which it has found. -/
def foundLen (old new : HttpReq) : Nat :=
  (if new.sec_ws_key = old.sec_ws_key then 0 else 20 + new.sec_ws_key.len) +
    (if new.sec_ws_ver = old.sec_ws_ver then 0 else 24 + new.sec_ws_ver.len)

theorem HeaderWalk.room (h : HeaderWalk data req (some p) e) (hend : EndsWith data p rest)
    (hkey : e.hreq.sec_ws_key.len ≤ SKB_SIZE) (hver : e.hreq.sec_ws_ver.len ≤ SKB_SIZE) :
    foundLen req e.hreq ≤ rest.length := by
  generalize hprev : some p = prev at h
  induction h generalizing p rest with
  | stop htok hrv =>
    rw [foundLen, if_pos rfl, if_pos rfl]
    exact Nat.zero_le _
  | @field req req' prev prev' rv rv' tok e1 e htok hrv hparse hrv' hrest ih =>
    subst hprev
    obtain ⟨hneg, -⟩ | ⟨len, rfl, rfl, rfl, hline⟩ := http_header_tok_inv htok
    · omega
    have hin : len + 2 ≤ rest.length := by
      have hlf := hend.lt (i := p + len + 1) (by rw [hline.lf]; decide)
      omega
    have hnext : EndsWith data (p + len + 2) (rest.drop (len + 2)) := by
      rw [Nat.add_assoc]
      exact hend.drop hin
    have hleft := ih hnext hkey hver rfl
    rw [List.length_drop] at hleft
    obtain rfl | ⟨F, value, rfl, hvalue⟩ := parse_header_field_room hline hparse
    · omega
    unfold foundLen at hleft ⊢
    cases F with
    | sec_ws_key =>
      have hname : Field.sec_ws_key.name.length = 17 := rfl
      have hslot : (Field.assign value req .sec_ws_key).sec_ws_key = value := rfl
      have hother : (Field.assign value req .sec_ws_key).sec_ws_ver = req.sec_ws_ver := rfl
      rw [hslot, hother] at hleft
      rw [hname] at hvalue
      have hle : (if e.hreq.sec_ws_key = req.sec_ws_key then 0 else 20 + e.hreq.sec_ws_key.len) ≤
          20 + e.hreq.sec_ws_key.len := by
        split <;> omega
      by_cases hlast : e.hreq.sec_ws_key = value
      · rw [if_pos hlast] at hleft
        rw [← hlast] at hvalue
        omega
      · rw [if_neg hlast] at hleft
        omega
    | sec_ws_ver =>
      have hname : Field.sec_ws_ver.name.length = 21 := rfl
      have hslot : (Field.assign value req .sec_ws_ver).sec_ws_ver = value := rfl
      have hother : (Field.assign value req .sec_ws_ver).sec_ws_key = req.sec_ws_key := rfl
      rw [hslot, hother] at hleft
      rw [hname] at hvalue
      have hle : (if e.hreq.sec_ws_ver = req.sec_ws_ver then 0 else 24 + e.hreq.sec_ws_ver.len) ≤
          24 + e.hreq.sec_ws_ver.len := by
        split <;> omega
      by_cases hlast : e.hreq.sec_ws_ver = value
      · rw [if_pos hlast] at hleft
        rw [← hlast] at hvalue
        omega
      · rw [if_neg hlast] at hleft
        omega
    | connection =>
      simp only [Field.assign] at hleft
      split at hleft <;> exact Nat.le_trans hleft (Nat.sub_le _ _)
    | _ => exact Nat.le_trans hleft (Nat.sub_le _ _)

end Room

/-- Lines with their line ends. -/
def textLines (lines : List (List UInt8)) : List UInt8 :=
  lines.flatMap fun line => line ++ [CR, LF]

section Rnrn

variable {data : Memory UInt8} {p len s : Nat} {last : List UInt8} {lines : List (List UInt8)}

theorem rnrn_loop_of {r : Nat} (hle : s ≤ r) (hlt : r + 4 ≤ s + len) (h : Rnrn data r) : rnrn_loop data len s = true := by
  induction len generalizing s with
  | zero => omega
  | succ len ih =>
    rw [rnrn_loop]
    by_cases hat : s = r
    · subst hat
      rw [if_pos ⟨h.cr, by omega, h.lf, h.cr_next, h.lf_next⟩]
    · split
      · rfl
      · exact ih (by omega) (by omega)

/-- The loop finds two line ends in a row among the readable bytes. -/
theorem Skb.Ok.has_rnrn {b : Skb} (hok : b.Ok) {before after : List UInt8}
    (h : b.readable = before ++ ([CR, LF, CR, LF] ++ after)) : has_rnrn_termination b = true := by
  have hlen := b.length_readable
  rw [h, List.length_append, List.length_append] at hlen
  simp only [List.length_cons, List.length_nil] at hlen
  unfold has_rnrn_termination
  rw [hok.rdsz_eq]
  exact rnrn_loop_of (Nat.le_add_right _ _) (by omega) (hok.rnrn h)

/-- There are no two line ends in a row where no line is empty. -/
theorem EndsWith.no_rnrn (h : EndsWith data p (textLines lines ++ last)) (hlines : ∀ line ∈ lines, line ≠ [] ∧ CR ∉ line)
    (hlast : CR ∉ last) {r : Nat} (hle : p ≤ r) : ¬ Rnrn data r := by
  induction lines generalizing p with
  | nil =>
    intro hrnrn
    have hin := h.lt (i := r) (by rw [hrnrn.cr]; decide)
    have hmem := h.mem hle hin
    rw [hrnrn.cr] at hmem
    exact hlast hmem
  | cons line lines ih =>
    intro hrnrn
    obtain ⟨hne, hcr⟩ := hlines line List.mem_cons_self
    have hsplit : textLines (line :: lines) ++ last = line ++ ([CR, LF] ++ (textLines lines ++ last)) := by
      simp [textLines]
    rw [hsplit] at h
    obtain ⟨hline, hafter⟩ := h.append
    obtain ⟨hend, hrest⟩ := hafter.append
    have htwo : [CR, LF].length = 2 := rfl
    rw [htwo] at hrest
    simp only [List.length_cons, List.length_nil, Memory.window_succ, Memory.window_zero, List.cons.injEq, and_true] at hend
    have hnext := ih hrest fun line hmem => hlines line (List.mem_cons_of_mem _ hmem)
    rcases Nat.lt_trichotomy r (p + line.length) with hbefore | rfl | hbehind
    · have hmem : data r ∈ line := by
        rw [← hline, List.mem_iff_getElem]
        refine ⟨r - p, by rw [Memory.length_window]; omega, ?_⟩
        rw [Memory.getElem_window, Nat.add_sub_cancel' hle]
      rw [hrnrn.cr] at hmem
      exact hcr hmem
    · -- The second line end would be the start of the next line.
      have hcr' := hrnrn.cr_next
      cases lines with
      | nil =>
        have hin := hrest.lt (i := p + line.length + 2) (by rw [hcr']; decide)
        have hmem := hrest.mem (Nat.le_refl _) hin
        rw [hcr'] at hmem
        exact hlast hmem
      | cons next lines =>
        obtain ⟨hne', hcr''⟩ := hlines next (List.mem_cons_of_mem _ List.mem_cons_self)
        have hsplit' : textLines (next :: lines) ++ last = next ++ ([CR, LF] ++ (textLines lines ++ last)) := by
          simp [textLines]
        rw [hsplit'] at hrest
        have hnextline := hrest.append.1
        cases next with
        | nil => exact hne' rfl
        | cons c next =>
          rw [List.length_cons, Memory.window_succ] at hnextline
          have hfirst := (List.cons.inj hnextline).1
          rw [hcr'] at hfirst
          exact hcr'' (hfirst ▸ List.mem_cons_self)
    · by_cases hlf : r = p + line.length + 1
      · have hat := hrnrn.cr
        rw [hlf, hend.2] at hat
        exact absurd hat (by decide)
      · exact hnext (by omega) hrnrn

end Rnrn

section Spaced

variable {data : Memory UInt8} {p : Nat} {name value : List UInt8}

/-- Of a value behind one space `trim` leaves the value, if there is no blank in it. -/
theorem FieldLine.trim (h : FieldLine data p name (SPACE :: value)) (hblank : ∀ c ∈ value, is_blank c = false)
    (hcr : data (p + (name.length + (value.length + 1 + 1))) = CR) :
    ∃ chk, trim data (lineValue p name (SPACE :: value)) = .ok chk ∧ chk.bytes data = value := by
  obtain ⟨-, hbytes⟩ := h.rest_eq
  have hlt := h.lt
  rw [List.length_cons] at hlt hbytes
  generalize hq : p + (name.length + 1) = q at hbytes
  rw [Memory.window_succ] at hbytes
  obtain ⟨hspace, hvalue⟩ := List.cons.inj hbytes
  have hat (i : Nat) (hi : i < value.length) : is_blank (data (q + 1 + i)) = false := by
    apply hblank
    have hmem : data (q + 1 + i) ∈ data.window (q + 1) value.length := by
      rw [List.mem_iff_getElem]
      exact ⟨i, by rwa [Memory.length_window], Memory.getElem_window ..⟩
    rwa [hvalue] at hmem
  have hfront : trim_front data (value.length + 1) q 0 = .ok (value.length, q + 1) := by
    rw [trim_front, Nat.add_zero, if_neg (by omega), if_pos (.inl hspace)]
    cases hlen : value.length with
    | zero => rfl
    | succ n =>
      -- The second look is at the second character of the value, or at the line end behind it.
      have hstop : is_blank (data (q + 1 + 1)) = false := by
        cases n with
        | zero =>
          rw [hlen] at hcr
          rw [show q + 1 + 1 = p + (name.length + (0 + 1 + 1 + 1)) by omega, hcr]
          decide
        | succ n => exact hat 1 (by omega)
      rw [trim_front, if_neg (by omega), if_neg]
      rw [blank_iff, hstop]
      exact Bool.false_ne_true
  have hback : trim_back data (q + 1) value.length = .ok value.length := by
    cases hlen : value.length with
    | zero => rfl
    | succ n =>
      rw [trim_back, if_neg (by omega), if_neg]
      rw [blank_iff, hat n (by omega)]
      exact Bool.false_ne_true
  refine ⟨{ p := some (q + 1), len := value.length }, ?_, hvalue⟩
  unfold wsd.trim lineValue
  rw [if_neg (List.cons_ne_nil SPACE value ∘ List.length_eq_zero_iff.mp)]
  simp only [List.length_cons, hq, hfront, Except.ok_bind, hback, Except.pure_eq_ok]

end Spaced

end wsd
