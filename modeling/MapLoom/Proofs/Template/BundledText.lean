import MapLoom.Template.Bundled
import MapLoom.Template.Reading

set_option autoImplicit false

/-!
# The texts of the bundled templates

Each bundled template is what the reader of templates makes of a text. Reading a closed text is
computed, and its result compared with the template part by part.
-/
namespace MapLoom.Template
namespace Bundled

def headerText : List Text :=
  ["\n\x7b%- for p in parameters_list %\x7d\x7b% if p.is_band_owner %\x7d\n",
    "struct \x7b\x7b p.band_agnostic_name \x7d\x7dV5 \x7b\n",
    "\x7b%- for f in p.fields %\x7d\n",
    "    \x7b\x7b f.resolve_as \x7d\x7d \x7b\x7b f.name_snake \x7d\x7d\x7b% if f.num_entries > ",
    "0 %\x7d[\x7b\x7b f.num_entries \x7d\x7d]\x7b% endif %\x7d;\n",
    "\x7b%- endfor %\x7d\n",
    "\x7b%- if not p.fields %\x7d\n",
    "    uint8_t raw[\x7b\x7b p.length \x7d\x7d];\n",
    "\x7b%- endif %\x7d\n",
    "\x7d;\n",
    "\x7b%- endif %\x7d\x7b% endfor %\x7d\n",
    "\n",
    "struct Ex10CalibrationParamsV5 \x7b\n",
    "\x7b%- for p in parameters_list %\x7d\n",
    "    struct \x7b\x7b p.band_agnostic_name \x7d\x7dV5 \x7b\x7b p.name_snake \x7d\x7d;\n",
    "\x7b%- endfor %\x7d\n",
    "\x7d;\n",
    "\n",
    "#define EX10_CALIBRATION_V5_LENGTH \x7b\x7b total_length | hex \x7d\x7du\n"]

def loaderText : List Text :=
  ["\n\x7b%- for p in parameters_list %\x7d\n",
    "    // \x7b\x7b p.name \x7d\x7d: [\x7b\x7b p.address | hex ",
    "\x7d\x7d:\x7b\x7b p.end_address | hex \x7d\x7d]\n",
    "    memcpy(&calibration_v5.\x7b\x7b p.name_snake \x7d\x7d, calibration_page + ",
    "\x7b\x7b p.address | hex \x7d\x7du, \x7b\x7b p.length \x7d\x7du);\n",
    "\x7b%- endfor %\x7d\n"]

def printerText : List Text :=
  ["\n\x7b%- for p in parameters_list %\x7d\x7b% if p.is_band_owner %\x7d\n",
    "    ex10_ex_printf(\"\x7b\x7b p.band_agnostic_name \x7d\x7d:\\n\");\n",
    "\x7b%- for f in p.fields %\x7d\x7b% if f.num_entries > 0 %\x7d\n",
    "    ex10_ex_printf(\"    \x7b\x7b f.name_snake \x7d\x7d:\");\n",
    "    for (size_t idx = 0u; idx < \x7b\x7b f.num_entries \x7d\x7du; ++idx)\n",
    "    \x7b\n",
    "        ex10_ex_printf(\" \x7b\x7b f.resolve_as | printf_format \x7d\x7d,\", ",
    "calibration->\x7b\x7b p.name_snake \x7d\x7d.\x7b\x7b f.name_snake \x7d\x7d[idx]);\n",
    "    \x7d\n",
    "    ex10_ex_printf(\"\\n\");\n",
    "\x7b%- else %\x7d\n",
    "    ex10_ex_printf(\"    \x7b\x7b f.name_snake \x7d\x7d: \x7b\x7b f.resolve_as | ",
    "printf_format \x7d\x7d\\n\", calibration->\x7b\x7b p.name_snake ",
    "\x7d\x7d.\x7b\x7b f.name_snake \x7d\x7d);\n",
    "\x7b%- endif %\x7d\x7b% endfor %\x7d\n",
    "\x7b%- endif %\x7d\x7b% endfor %\x7d\n"]

def shimText : List Text :=
  ["\n\x7b%- for p in parameters_list %\x7d\x7b% if p.is_band_owner %\x7d\n",
    "class \x7b\x7b p.band_agnostic_name \x7d\x7dV5(Structure):\n",
    "    _fields_ = [\n",
    "\x7b%- for f in p.fields %\x7d\n",
    "        ('\x7b\x7b f.name_snake \x7d\x7d', \x7b\x7b f.resolve_as | ctype \x7d\x7d\x7b% if ",
    "f.num_entries > 0 %\x7d * \x7b\x7b f.num_entries \x7d\x7d\x7b% endif %\x7d),\n",
    "\x7b%- endfor %\x7d\n",
    "\x7b%- if not p.fields %\x7d\n",
    "        ('raw', c_uint8 * \x7b\x7b p.length \x7d\x7d),\n",
    "\x7b%- endif %\x7d\n",
    "    ]\n",
    "\x7b%- endif %\x7d\x7b% endfor %\x7d\n",
    "\n",
    "class Ex10CalibrationParamsV5(Structure):\n",
    "    _fields_ = [\n",
    "\x7b%- for p in parameters_list %\x7d\n",
    "        ('\x7b\x7b p.name_snake \x7d\x7d', \x7b\x7b p.band_agnostic_name \x7d\x7dV5),\n",
    "\x7b%- endfor %\x7d\n",
    "    ]\n"]

def pieces : Bundled → List Text
  | .header => headerText
  | .loader => loaderText
  | .printer => printerText
  | .shim => shimText

def text (b : Bundled) : Text := b.pieces.flatten

end Bundled

def Expr.agrees : Expr → Expr → Bool
  | .literal (.integer m), .literal (.integer n) => m == n
  | .path keys, .path others => keys == others
  | .filtered e filter, .filtered d other => e.agrees d && filter == other
  | _, _ => false

def Test.agrees : Test → Test → Bool
  | .value e, .value d => e.agrees d
  | .compared c a b, .compared d x y => c == d && (a.agrees x && b.agrees y)
  | .negated s, .negated t => s.agrees t
  | _, _ => false

mutual

/-- Whether two parts are the same, for parts of the kinds that bundled templates have. -/
def Node.agrees : Node → Node → Bool
  | .text s, .text t => s == t
  | .print s, .print t => s.agrees t
  | .each name items body, .each other list nodes =>
    name == other && (items.agrees list && agreeAll body nodes)
  | .branch s yes no, .branch t ns ms => s.agrees t && (agreeAll yes ns && agreeAll no ms)
  | _, _ => false

def agreeAll : List Node → List Node → Bool
  | [], [] => true
  | n :: ns, m :: ms => n.agrees m && agreeAll ns ms
  | _, _ => false

end

theorem Expr.eq_of_agrees {e d : Expr} (h : e.agrees d = true) : e = d := by
  fun_induction Expr.agrees e d with
  | case1 m n => rw [eq_of_beq h]
  | case2 keys others => rw [eq_of_beq h]
  | case3 e filter d other ih =>
    obtain ⟨hexpr, hfilter⟩ := Bool.and_eq_true_iff.1 h
    rw [ih hexpr, eq_of_beq hfilter]
  | case4 => cases h

theorem Test.eq_of_agrees {s t : Test} (h : s.agrees t = true) : s = t := by
  fun_induction Test.agrees s t with
  | case1 e d => rw [Expr.eq_of_agrees h]
  | case2 c a b d x y =>
    obtain ⟨hc, h⟩ := Bool.and_eq_true_iff.1 h
    obtain ⟨ha, hb⟩ := Bool.and_eq_true_iff.1 h
    rw [eq_of_beq hc, Expr.eq_of_agrees ha, Expr.eq_of_agrees hb]
  | case3 s t ih => rw [ih h]
  | case4 => cases h

mutual

theorem Node.eq_of_agrees {n m : Node} (h : n.agrees m = true) : n = m := by
  cases n <;> cases m <;>
    simp only [Node.agrees, Bool.and_eq_true, beq_iff_eq, Bool.false_eq_true] at h
  case text.text => rw [h]
  case print.print => rw [Test.eq_of_agrees h]
  case each.each =>
    obtain ⟨hname, hitems, hbody⟩ := h
    rw [hname, Expr.eq_of_agrees hitems, eq_of_agreeAll hbody]
  case branch.branch =>
    obtain ⟨htest, hyes, hno⟩ := h
    rw [Test.eq_of_agrees htest, eq_of_agreeAll hyes, eq_of_agreeAll hno]

theorem eq_of_agreeAll {ns ms : List Node} (h : agreeAll ns ms = true) : ns = ms := by
  cases ns <;> cases ms <;> simp only [agreeAll, Bool.and_eq_true, Bool.false_eq_true] at h
  case nil.nil => rfl
  case cons.cons =>
    obtain ⟨hnode, hrest⟩ := h
    rw [Node.eq_of_agrees hnode, eq_of_agreeAll hrest]

end

/-- A piece as the list of its characters, which is what the computation needs. -/
theorem cons_eq_cons {s : String} {t : Text} {pieces ts : List Text} (hs : s = String.ofList t)
    (h : pieces = ts) : (s : Text) :: pieces = t :: ts := by
  rw [hs, String.toList_ofList, h]

/-- To read pieces, their characters are found first, and then the text is read and compared. -/
theorem ofText?_of_agrees {pieces : List Text} {nodes : List Node}
    (h : ∃ ts, pieces = ts ∧ (ofText? ts.flatten).any (agreeAll nodes) = true) :
    ofText? pieces.flatten = some nodes := by
  obtain ⟨ts, rfl, h⟩ := h
  cases hread : ofText? pieces.flatten with
  | none =>
    rw [hread] at h
    cases h
  | some found =>
    rw [hread] at h
    rw [eq_of_agreeAll h]

@[simp] theorem ofText?_text (b : Bundled) : ofText? b.text = some b.nodes := by
  apply ofText?_of_agrees
  cases b
  all_goals
    apply Exists.intro
    apply And.intro
    · repeat apply cons_eq_cons rfl
      rfl
    · decide +kernel

end MapLoom.Template
