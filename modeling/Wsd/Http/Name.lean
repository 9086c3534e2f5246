import Wsd.Http.Accept

namespace wsd

/-- The names agree, ignoring case. -/
def SameName (name : List UInt8) (F : Field) : Prop :=
  name.map tolower = F.name.map tolower

/-- The name starts with the field's name, ignoring case. -/
def StartsName (name : List UInt8) (F : Field) : Prop :=
  F.name.map tolower <+: name.map tolower

instance (name : List UInt8) (F : Field) : Decidable (SameName name F) :=
  inferInstanceAs (Decidable (name.map tolower = F.name.map tolower))

instance (name : List UInt8) (F : Field) : Decidable (StartsName name F) :=
  inferInstanceAs (Decidable (F.name.map tolower <+: name.map tolower))

/-- The bytes of a header line without its line end. -/
structure FieldLine (data : Memory UInt8) (p : Nat) (name value : List UInt8) : Prop where
  name_class : ∀ c ∈ name, is_rfc7230_header_field c = true
  bytes : data.window p (name.length + (value.length + 1)) = name ++ COLON :: value
  lt : p + (name.length + (value.length + 1)) < SKB_SIZE

/-- The token of a header line at `p`. -/
def lineToken (p : Nat) (name value : List UInt8) : Chunk :=
  { p := some p, len := name.length + (value.length + 1) }

/-- Where the value of a header line at `p` lies. -/
def lineValue (p : Nat) (name value : List UInt8) : Chunk :=
  { p := some (p + (name.length + 1)), len := value.length }

section Compare

variable {data : Memory UInt8} {p : Nat}

theorem strncasecmp_eq_iff (lit : List UInt8) :
    strncasecmp_eq data p lit lit.length = true ↔ (data.window p lit.length).map tolower = lit.map tolower := by
  induction lit generalizing p with
  | nil => exact iff_of_true rfl rfl
  | cons c lit ih =>
    simp only [List.length_cons, strncasecmp_eq, Bool.and_eq_true, beq_iff_eq, Memory.window_succ, List.map_cons,
      List.cons.injEq]
    rw [ih]

/-- No name of a field has a colon or a line end in it. -/
theorem Field.name_stop (F : Field) {c stop : UInt8} (hc : c ∈ F.name) (hstop : stop = COLON ∨ stop = CR) :
    tolower stop ≠ tolower c := by
  have hcolon : ∀ c ∈ F.name, tolower COLON ≠ tolower c := by
    cases F <;> decide +kernel
  have hcr : ∀ c ∈ F.name, tolower CR ≠ tolower c := by
    cases F <;> decide +kernel
  obtain rfl | rfl := hstop
  · exact hcolon c hc
  · exact hcr c hc

/-- No name of a field is where another one starts. -/
theorem Field.name_prefix_inj {F G : Field} (h : F.name.map tolower <+: G.name.map tolower) : F = G := by
  revert h
  cases F <;> cases G <;> decide

theorem StartsName.unique {name : List UInt8} {F G : Field} (hF : StartsName name F) (hG : StartsName name G) :
    F = G := by
  rcases Nat.le_total (F.name.map tolower).length (G.name.map tolower).length with hle | hle
  · exact Field.name_prefix_inj (List.prefix_of_prefix_length_le hF hG hle)
  · exact (Field.name_prefix_inj (List.prefix_of_prefix_length_le hG hF hle)).symm

theorem SameName.starts {name : List UInt8} {F : Field} (h : SameName name F) : StartsName name F := by
  refine ⟨[], ?_⟩
  rw [List.append_nil]
  exact h.symm

/-- A comparison finds the names which the name at `p` starts with: it ends at the colon or the
    line end behind the name at the latest. -/
theorem compare_name_iff {name : List UInt8} (hname : data.window p name.length = name)
    (hstop : data (p + name.length) = COLON ∨ data (p + name.length) = CR) (F : Field) :
    strncasecmp_eq data p F.name F.name.length = true ↔ StartsName name F := by
  rw [strncasecmp_eq_iff]
  rcases Nat.lt_or_ge name.length F.name.length with hlong | hshort
  · -- The name is shorter: it stops where the field's name has another character.
    refine iff_of_false (fun hsame => ?_) fun hstarts => ?_
    · obtain ⟨extra, hextra⟩ : ∃ extra, F.name.length = name.length + (extra + 1) :=
        ⟨F.name.length - name.length - 1, by omega⟩
      have hat := congrArg (fun l => l[name.length]?) hsame
      rw [hextra, Memory.window_add, Memory.window_succ] at hat
      simp only [List.map_append, List.map_cons, List.getElem?_append_right, List.length_map, Memory.length_window,
        Nat.le_refl, Nat.sub_self, List.getElem?_cons_zero, List.getElem?_map] at hat
      rw [List.getElem?_eq_getElem hlong, Option.map_some, Option.some.injEq] at hat
      exact F.name_stop (List.getElem_mem hlong) hstop hat
    · have hlen := hstarts.length_le
      simp only [List.length_map] at hlen
      omega
  · have htake : data.window p F.name.length = name.take F.name.length := by
      rw [← hname, Memory.take_window _ hshort]
    rw [htake, StartsName, List.prefix_iff_eq_take, List.length_map, ← List.map_take]
    exact eq_comm

/-- The field which the parser finds is the one with whose name the line's name starts. -/
theorem field_at_eq_some_iff {name : List UInt8} (hname : data.window p name.length = name)
    (hstop : data (p + name.length) = COLON ∨ data (p + name.length) = CR) {F : Field} :
    field_at data p = some F ↔ StartsName name F := by
  constructor
  · intro hfield
    exact (compare_name_iff hname hstop F).1 (by simpa using List.find?_some hfield)
  · intro hstarts
    cases hfield : field_at data p with
    | none =>
      exact absurd ((compare_name_iff hname hstop F).2 hstarts)
        (by simpa using List.find?_eq_none.1 hfield F F.mem_all)
    | some G =>
      have hG := (compare_name_iff hname hstop G).1 (by simpa using List.find?_some hfield)
      rw [hG.unique hstarts]

end Compare

section Line

variable {data : Memory UInt8} {p : Nat} {name value : List UInt8}

theorem FieldLine.name_eq (h : FieldLine data p name value) : data.window p name.length = name := by
  have hbytes := congrArg (List.take name.length) h.bytes
  rwa [Memory.window_add, List.take_left' (Memory.length_window ..), List.take_left] at hbytes

theorem FieldLine.rest_eq (h : FieldLine data p name value) :
    data (p + name.length) = COLON ∧ data.window (p + (name.length + 1)) value.length = value := by
  have hbytes := congrArg (List.drop name.length) h.bytes
  rw [Memory.window_add, List.drop_left' (Memory.length_window ..), List.drop_left, Memory.window_succ] at hbytes
  exact List.cons.inj hbytes

/-- The search for the colon ends behind the name. -/
theorem FieldLine.scan (h : FieldLine data p name value) :
    skip_while (fun c => c != COLON) data (SKB_SIZE - p) p = .ok (p + name.length + 1) := by
  have hlt := h.lt
  refine skip_while_ok (by omega) (fun i hi => ?_) (by simp [h.rest_eq.1])
  have hat : data (p + i) ∈ name := by
    rw [← h.name_eq, List.mem_iff_getElem]
    exact ⟨i, by rwa [Memory.length_window], Memory.getElem_window ..⟩
  exact colon_not_name (h.name_class _ hat)

theorem FieldLine.compare_iff (h : FieldLine data p name value) (F : Field) :
    strncasecmp_eq data p F.name F.name.length = true ↔ StartsName name F :=
  compare_name_iff h.name_eq (.inl h.rest_eq.1) F

theorem FieldLine.field_at_some (h : FieldLine data p name value) {F : Field} :
    field_at data p = some F ↔ StartsName name F :=
  field_at_eq_some_iff h.name_eq (.inl h.rest_eq.1)

theorem FieldLine.field_at_none (h : FieldLine data p name value) :
    field_at data p = none ↔ ∀ F, ¬ StartsName name F := by
  constructor
  · intro hfield F hstarts
    rw [h.field_at_some.2 hstarts] at hfield
    cases hfield
  · intro hno
    cases hfield : field_at data p with
    | none => rfl
    | some F => exact absurd (h.field_at_some.1 hfield) (hno F)

/-- The parser assigns the value to the field whose name the line's name starts with. -/
theorem FieldLine.parse (h : FieldLine data p name value) (req : HttpReq) :
    parse_header_field data (lineToken p name value) req =
      match field_at data p with
      | some F => .ok (1, F.assign (lineValue p name value) req)
      | none => .ok (0, req) := by
  have hlt := h.lt
  unfold SKB_SIZE at hlt
  have hused : p + name.length + 1 - p = name.length + 1 := by omega
  have hleft : u32 (name.length + (value.length + 1) + 4294967296 - (name.length + 1)) = value.length := by
    unfold u32
    omega
  rw [parse_header_field_eq req rfl h.scan, hused]
  cases field_at data p with
  | none => rfl
  | some F => simp only [lineToken, lineValue, hleft]

end Line

/-- What the parser makes of the lines with the given name: the value goes to the slot of the
    field which has that name, and where none has it the request stays as it is. -/
structure Recognised (name : List UInt8) : Prop where
  slot {data : Memory UInt8} {p : Nat} {value : List UInt8} : FieldLine data p name value → ∀ F,
    (∀ req, parse_header_field data (lineToken p name value) req = .ok (1, F.assign (lineValue p name value) req)) ↔
      SameName name F
  other {data : Memory UInt8} {p : Nat} {value : List UInt8} : FieldLine data p name value →
    (∀ F, ¬ SameName name F) → ∀ req, parse_header_field data (lineToken p name value) req = .ok (0, req)

/-- The slot of an assignment to the empty request tells the field. -/
theorem Field.assign_inj {value : Chunk} {F G : Field} (hvalue : value ≠ .null)
    (h : G.assign value {} = F.assign value {}) : G = F := by
  have hnull : Chunk.null ≠ value := hvalue.symm
  have hfirst : Chunk.null.len = 0 := rfl
  revert h
  cases F <;> cases G <;> simp [Field.assign, hvalue, hnull, hfirst]

/-- No field's name is a proper start of this one. -/
def NoKnownStart (name : List UInt8) : Prop :=
  ∀ F, StartsName name F → SameName name F

section Recognised

variable {data : Memory UInt8} {p : Nat} {name value : List UInt8}

theorem NoKnownStart.recognised (h : NoKnownStart name) : Recognised name where
  slot hline F := by
    constructor
    · intro hslot
      have hparse := hslot {}
      rw [hline.parse] at hparse
      cases hfield : field_at _ _ with
      | none =>
        rw [hfield] at hparse
        cases hparse
      | some G =>
        rw [hfield] at hparse
        have hstarts := hline.field_at_some.1 hfield
        rw [Field.assign_inj (by simp [lineValue, Chunk.null]) (Prod.mk.inj (Except.ok.inj hparse)).2] at hstarts
        exact h F hstarts
    · intro hsame req
      rw [hline.parse, hline.field_at_some.2 hsame.starts]
  other hline hno req := by
    rw [hline.parse, hline.field_at_none.2 fun F hstarts => hno F (h F hstarts)]

/-- A line with the given name fits the receive buffer. -/
theorem exists_fieldLine (hclass : ∀ c ∈ name, is_rfc7230_header_field c = true) (hfit : name.length + 1 < SKB_SIZE) :
    ∃ data p value, FieldLine data p name value := by
  refine ⟨Skb.zero.data.store 0 (name ++ [COLON]), 0, [], hclass, ?_, by simpa using hfit⟩
  have hwindow := Memory.window_store_self Skb.zero.data 0 (name ++ [COLON])
  rwa [List.length_append] at hwindow

theorem Recognised.noKnownStart (h : Recognised name) (hclass : ∀ c ∈ name, is_rfc7230_header_field c = true)
    (hfit : name.length + 1 < SKB_SIZE) : NoKnownStart name := by
  intro F hstarts
  obtain ⟨data, p, value, hline⟩ := exists_fieldLine hclass hfit
  refine (h.slot hline F).1 fun req => ?_
  rw [hline.parse, hline.field_at_some.2 hstarts]

end Recognised

/-- The bytes of a header line with its line end. -/
def lineBytes (line : List UInt8 × List UInt8) : List UInt8 :=
  line.1 ++ COLON :: (line.2 ++ [CR, LF])

/-- The bytes of header lines, and of the empty line behind them. -/
def blockBytes (lines : List (List UInt8 × List UInt8)) : List UInt8 :=
  lines.flatMap lineBytes ++ [CR, LF]

/-- A header block at a position of the receive buffer: lines of a name, a colon and a value. -/
structure Block (data : Memory UInt8) (p : Nat) (lines : List (List UInt8 × List UInt8)) : Prop where
  names : ∀ line ∈ lines, ∀ c ∈ line.1, is_rfc7230_header_field c = true
  values : ∀ line ∈ lines, ∀ c ∈ line.2, is_rfc7230_field_value c = true
  bytes : data.window p (blockBytes lines).length = blockBytes lines
  le : p + (blockBytes lines).length ≤ SKB_SIZE

/-- What the header fields of a request hold. -/
def HttpReq.contents (data : Memory UInt8) (req : HttpReq) : List (List UInt8) :=
  req.values.map (Chunk.bytes data)

/-- The request which the lines of a block make of one. -/
def collect (data : Memory UInt8) : Nat → List (List UInt8 × List UInt8) → HttpReq → HttpReq
  | _, [], req => req
  | p, (name, value) :: lines, req =>
    collect data (p + (name.length + (value.length + 1)) + 2) lines
      (match field_at data p with
        | some F => F.assign (lineValue p name value) req
        | none => req)

section Block

variable {data : Memory UInt8} {p : Nat} {name value : List UInt8} {lines : List (List UInt8 × List UInt8)}

/-- Bytes which satisfy a predicate are scanned up to the first which does not. -/
theorem scan_window {pred : UInt8 → Bool} {bytes : List UInt8} (hbytes : data.window p bytes.length = bytes)
    (hpred : ∀ c ∈ bytes, pred c = true) (hend : pred (data (p + bytes.length)) = false)
    (hlt : p + bytes.length < SKB_SIZE) : skip_while pred data (SKB_SIZE - p) p = .ok (p + bytes.length + 1) := by
  refine skip_while_ok (by omega) (fun i hi => ?_) hend
  apply hpred _
  rw [← hbytes, List.mem_iff_getElem]
  exact ⟨i, by rwa [Memory.length_window], Memory.getElem_window ..⟩

/-- The tokeniser cuts off the line with a name, a colon and a value. -/
theorem http_header_tok_line (hline : FieldLine data p name value)
    (hvalue : ∀ c ∈ value, is_rfc7230_field_value c = true)
    (hcr : data (p + (name.length + (value.length + 1))) = CR)
    (hlf : data (p + (name.length + (value.length + 1)) + 1) = LF) :
    http_header_tok data none (some p) = .ok (((name.length + (value.length + 1) : Nat) : Int), lineToken p name value,
      some (p + (name.length + (value.length + 1)) + 2), .WSD_CHECKERRNO) := by
  have hlt := hline.lt
  obtain ⟨hcolon, hrest⟩ := hline.rest_eq
  have hend : p + name.length + 1 + value.length = p + (name.length + (value.length + 1)) := by omega
  have hname := scan_window hline.name_eq hline.name_class (by rw [hcolon]; decide) (by omega)
  have hscan := @scan_window data (p + name.length + 1) is_rfc7230_field_value value hrest hvalue
    (by rw [hend, hcr]; decide) (by omega)
  rw [hend] at hscan
  have hlen : p + (name.length + (value.length + 1)) + 1 - p - 1 = name.length + (value.length + 1) := by omega
  have hint : i32 (name.length + (value.length + 1)) = ((name.length + (value.length + 1) : Nat) : Int) :=
    i32_of_lt (by unfold SKB_SIZE at hlt; omega)
  unfold http_header_tok
  simp only [Option.isNone_none, if_true, Option.isNone_some, Bool.false_eq_true, if_false, hname, Except.ok_bind]
  rw [if_neg (by rw [Nat.add_sub_cancel, hcolon]; exact not_not.mpr rfl), hscan]
  simp only [Except.ok_bind, Nat.add_sub_cancel, hcr, hlf, and_self, if_true, hlen, hint, Except.pure_eq_ok]
  rfl

theorem Block.head (h : Block data p ((name, value) :: lines)) :
    FieldLine data p name value ∧ data (p + (name.length + (value.length + 1))) = CR ∧
      data (p + (name.length + (value.length + 1)) + 1) = LF ∧
      Block data (p + (name.length + (value.length + 1)) + 2) lines := by
  have hbytes := h.bytes
  have hle := h.le
  have hsplit : blockBytes ((name, value) :: lines) = (name ++ COLON :: value) ++ (CR :: LF :: blockBytes lines) := by
    simp [blockBytes, lineBytes]
  have hlen : (name ++ COLON :: value).length = name.length + (value.length + 1) := by simp
  rw [hsplit, List.length_append, hlen] at hle
  rw [hsplit, List.length_append, hlen, Memory.window_add] at hbytes
  obtain ⟨hline, hrest⟩ := List.append_inj hbytes (by rw [Memory.length_window, hlen])
  simp only [List.length_cons] at hrest hle
  rw [Memory.window_succ, Memory.window_succ] at hrest
  obtain ⟨hcr, hrest⟩ := List.cons.inj hrest
  obtain ⟨hlf, hrest⟩ := List.cons.inj hrest
  exact ⟨⟨h.names _ List.mem_cons_self, hline, by omega⟩, hcr, hlf,
    ⟨fun line hmem => h.names line (List.mem_cons_of_mem _ hmem),
      fun line hmem => h.values line (List.mem_cons_of_mem _ hmem), hrest, by omega⟩⟩

/-- At the empty line behind a block the tokeniser returns 0. -/
theorem Block.tok_end (h : Block data p []) :
    http_header_tok data none (some p) = .ok (0, { p := some p, len := 0 }, some (p + 2), .WSD_CHECKERRNO) := by
  have hends : data p = CR ∧ data (p + 1) = LF := by
    have htwo : (data.window p 2) = [CR, LF] := h.bytes
    rw [Memory.window_succ, Memory.window_succ] at htwo
    obtain ⟨hcr, hrest⟩ := List.cons.inj htwo
    exact ⟨hcr, (List.cons.inj hrest).1⟩
  have hfit : p + 2 ≤ SKB_SIZE := h.le
  have hscan : skip_while is_rfc7230_header_field data (SKB_SIZE - p) p = .ok (p + 0 + 1) :=
    skip_while_ok (by omega) (fun i hi => absurd hi (Nat.not_lt_zero i)) (by rw [Nat.add_zero, hends.1]; decide)
  have hcolon : CR ≠ COLON := by decide
  have hzero : p + 1 - p - 1 = 0 := by omega
  unfold http_header_tok
  simp only [Option.isNone_none, if_true, Option.isNone_some, Bool.false_eq_true, if_false, hscan, Except.ok_bind,
    Nat.add_zero, Nat.add_sub_cancel, hends, ne_eq, hcolon, not_false_eq_true, Except.pure_eq_ok, and_self, hzero]
  rfl

/-- The walk over a block collects its lines, up to the empty line. -/
theorem Block.walk (h : Block data p lines) (req : HttpReq) :
    ∃ e, HeaderWalk data req (some p) e ∧ e.rv = 0 ∧ e.hreq = collect data p lines req := by
  induction lines generalizing p req with
  | nil =>
    exact ⟨_, .stop h.tok_end (by decide), rfl, rfl⟩
  | cons line lines ih =>
    obtain ⟨name, value⟩ := line
    obtain ⟨hline, hcr, hlf, hrest⟩ := h.head
    have htok := http_header_tok_line hline (h.values _ List.mem_cons_self) hcr hlf
    have hpos : (0 : Int) < ((name.length + (value.length + 1) : Nat) : Int) := by omega
    have hparse := hline.parse req
    rw [collect]
    cases hfield : field_at data p with
    | none =>
      rw [hfield] at hparse
      obtain ⟨e, hwalk, hrv, hreq⟩ := ih hrest req
      exact ⟨e, .field htok hpos hparse (by decide) hwalk, hrv, hreq⟩
    | some F =>
      rw [hfield] at hparse
      obtain ⟨e, hwalk, hrv, hreq⟩ := ih hrest (F.assign (lineValue p name value) req)
      exact ⟨e, .field htok hpos hparse (by decide) hwalk, hrv, hreq⟩

/-- The loop of `http_recv` over a block collects its lines. -/
theorem Block.header_loop (h : Block data p lines) (req : HttpReq) :
    ∃ prev wsd_errno,
      header_loop data (SKB_SIZE + 1) req (some p) = .ok (true, collect data p lines req, prev, wsd_errno) := by
  obtain ⟨e, hwalk, -, hreq⟩ := h.walk req
  refine ⟨e.prev, e.wsd_errno, ?_⟩
  rw [← hreq]
  exact hwalk.header_loop (Nat.succ_pos _) fun p _ => by omega

end Block

section Contents

variable {data data' : Memory UInt8} {p p' : Nat} {name value : List UInt8}
  {lines after : List (List UInt8 × List UInt8)} {req req' : HttpReq}

@[simp] theorem Chunk.length_bytes (data : Memory UInt8) (chk : Chunk) : (chk.bytes data).length = chk.len :=
  Memory.length_window ..

theorem FieldLine.value_bytes (h : FieldLine data p name value) : (lineValue p name value).bytes data = value :=
  h.rest_eq.2

/-- Equal values assigned to requests with equal contents leave equal contents. -/
theorem Field.assign_contents {chk chk' : Chunk} (F : Field) (h : req.contents data = req'.contents data')
    (hvalue : chk.bytes data = chk'.bytes data') :
    (F.assign chk req).contents data = (F.assign chk' req').contents data' := by
  simp only [HttpReq.contents, HttpReq.values, List.map_cons, List.map_nil, List.cons.injEq, and_true] at h
  obtain ⟨hhost, hupgrade, hconn, hconn2, hkey, hver, hproto, hext, horigin, hagent⟩ := h
  have hlen : req.conn.len = req'.conn.len := by
    rw [← Chunk.length_bytes data, hconn, Chunk.length_bytes]
  cases F with
  | connection =>
    by_cases hfirst : req'.conn.len = 0 <;>
      simp [assign, hlen, hfirst, HttpReq.contents, HttpReq.values, hhost, hupgrade, hconn, hconn2, hkey, hver, hproto,
        hext, horigin, hagent, hvalue]
  | _ =>
    simp [assign, HttpReq.contents, HttpReq.values, hhost, hupgrade, hconn, hconn2, hkey, hver, hproto, hext, horigin,
      hagent, hvalue]

/-- The same line does the same to two requests with equal contents. -/
theorem line_contents (hline : FieldLine data p name value) (hline' : FieldLine data' p' name value)
    (h : req.contents data = req'.contents data') :
    (match field_at data p with
      | some F => F.assign (lineValue p name value) req
      | none => req).contents data =
    (match field_at data' p' with
      | some F => F.assign (lineValue p' name value) req'
      | none => req').contents data' := by
  cases hfield : field_at data p with
  | none =>
    rw [hline'.field_at_none.2 (hline.field_at_none.1 hfield)]
    exact h
  | some F =>
    rw [hline'.field_at_some.2 (hline.field_at_some.1 hfield)]
    exact F.assign_contents h (hline.value_bytes.trans hline'.value_bytes.symm)

/-- Two copies of a block collect the same. -/
theorem collect_contents (hblock : Block data p lines) (hblock' : Block data' p' lines)
    (h : req.contents data = req'.contents data') :
    (collect data p lines req).contents data = (collect data' p' lines req').contents data' := by
  induction lines generalizing p p' req req' with
  | nil => exact h
  | cons line lines ih =>
    obtain ⟨name, value⟩ := line
    obtain ⟨hline, -, -, hrest⟩ := hblock.head
    obtain ⟨hline', -, -, hrest'⟩ := hblock'.head
    exact ih hrest hrest' (line_contents hline hline' h)

/-- A line whose name no field's name starts changes nothing, wherever it stands. -/
theorem collect_insert (hno : ∀ F, ¬ StartsName name F) (hblock : Block data p (lines ++ (name, value) :: after))
    (hblock' : Block data' p' (lines ++ after)) (h : req.contents data = req'.contents data') :
    (collect data p (lines ++ (name, value) :: after) req).contents data =
      (collect data' p' (lines ++ after) req').contents data' := by
  induction lines generalizing p p' req req' with
  | nil =>
    obtain ⟨hline, -, -, hrest⟩ := hblock.head
    rw [List.nil_append, collect, hline.field_at_none.2 hno]
    exact collect_contents hrest hblock' h
  | cons line lines ih =>
    obtain ⟨name', value'⟩ := line
    obtain ⟨hline, -, -, hrest⟩ := hblock.head
    obtain ⟨hline', -, -, hrest'⟩ := hblock'.head
    exact ih hrest hrest' (line_contents hline hline' h)

end Contents

/-- A line with the given name, which is none of the fields', changes no slot of a header block
    to which it is added, at whatever position. -/
def AddsNothing (name : List UInt8) : Prop :=
  (∀ F, ¬ SameName name F) → ∀ {data data' : Memory UInt8} {p p' : Nat} {value : List UInt8}
    {lines after : List (List UInt8 × List UInt8)} {req req' : HttpReq},
    Block data p (lines ++ (name, value) :: after) → Block data' p' (lines ++ after) →
    req.contents data = req'.contents data' →
    ∃ hreq hreq' prev prev' wsd_errno errno',
      header_loop data (SKB_SIZE + 1) req (some p) = .ok (true, hreq, prev, wsd_errno) ∧
      header_loop data' (SKB_SIZE + 1) req' (some p') = .ok (true, hreq', prev', errno') ∧
      hreq.contents data = hreq'.contents data'

theorem NoKnownStart.addsNothing {name : List UInt8} (h : NoKnownStart name) : AddsNothing name := by
  intro hno data data' p p' value lines after req req' hblock hblock' hsame
  obtain ⟨prev, e, hloop⟩ := hblock.header_loop req
  obtain ⟨prev', e', hloop'⟩ := hblock'.header_loop req'
  refine ⟨_, _, prev, prev', e, e', hloop, hloop', ?_⟩
  exact collect_insert (fun F hstarts => hno F (h F hstarts)) hblock hblock' hsame

/-- The parser compares a field's name with the first characters of a line's name: names are
    recognised as a whole except for those which continue the name of a field. -/
theorem header_names_whole_iff {name : List UInt8} (hclass : ∀ c ∈ name, is_rfc7230_header_field c = true)
    (hfit : name.length + 1 < SKB_SIZE) : Recognised name ∧ AddsNothing name ↔ NoKnownStart name :=
  ⟨fun h => h.1.noKnownStart hclass hfit, fun h => ⟨h.recognised, h.addsNothing⟩⟩

theorem header_names_whole_accept : Recognised (ascii "Accept") ∧ AddsNothing (ascii "Accept") := by
  refine (header_names_whole_iff (by decide +kernel) (by decide)).2 fun F hstarts => ?_
  exfalso
  revert hstarts
  unfold StartsName
  cases F <;> decide +kernel

/-- A name which continues the one of a field is taken for it. -/
theorem upgrade_insecure_requests_taken : ¬ Recognised (ascii "Upgrade-Insecure-Requests") := by
  intro h
  have hsame := h.noKnownStart (by decide +kernel) (by decide) .upgrade (by unfold StartsName; decide +kernel)
  exact absurd hsame (by unfold SameName; decide +kernel)

end wsd
