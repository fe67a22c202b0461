/-!
Spelling of letters and signs beyond ASCII in ASCII: accents are dropped, other letters are spelt by their
sound, and pictures by their names.
-/
set_option autoImplicit false

namespace ApiStencil.Text.Table

/-- Each spelling with the characters that it stands for. -/
def asciiSpellings : List (String × String) := [
  (" ", "\u00a0"),
  ("!", "¡"),
  ("\"", "Ъъ“”„"),
  ("'", "Ьь‘’"),
  ("(c)", "©"),
  ("(r)", "®"),
  ("*", "·•"),
  ("+-", "±"),
  ("-", "‐‑‒–—"),
  ("...", "…"),
  ("0", "٠۰०"),
  ("1", "¹١۱१"),
  ("1/2", "½"),
  ("1/4", "¼"),
  ("2", "²٢۲२"),
  ("3", "³٣۳३"),
  ("3/4", "¾"),
  ("4", "٤۴४"),
  ("5", "٥۵५"),
  ("6", "٦۶६"),
  ("7", "٧۷७"),
  ("8", "٨۸८"),
  ("9", "٩۹९"),
  ("<<", "«"),
  (">>", "»"),
  ("?", "¿"),
  ("A", "ÀÁÂÃÄÅĀĂĄǍǞǠǺȀȂȦΑАḀẠẢẤẦẨẪẬẮẰẲẴẶ"),
  ("AE", "ÆǢǼ"),
  ("B", "ΒБḂḄḆ"),
  ("Bei ", "北"),
  ("Ben ", "本"),
  ("C", "ÇĆĈĊČḈ"),
  ("C/", "¢"),
  ("Ce ", "測测"),
  ("Ch", "Ч"),
  ("D", "ÐĎĐΔДḊḌḎḐḒ"),
  ("DZ", "ǄǱ"),
  ("Da ", "大"),
  ("Dong ", "東东"),
  ("Dz", "ǅǲ"),
  ("E", "ÈÉÊËĒĔĖĘĚȄȆȨΕΗЕЭḔḖḘḚḜẸẺẼẾỀỂỄỆ"),
  ("EUR", "€"),
  ("F", "ФḞ"),
  ("G", "ĜĞĠĢǦǴΓГḠ"),
  ("Guo ", "國国"),
  ("H", "ĤĦȞḢḤḦḨḪ"),
  ("Hai ", "海"),
  ("Han ", "漢汉"),
  ("Hao ", "好"),
  ("Hui ", "會会"),
  ("I", "ÌÍÎÏĨĪĬĮİǏȈȊΙИЙḬḮỈỊ"),
  ("IJ", "Ĳ"),
  ("Ia", "Я"),
  ("Io", "Ё"),
  ("Iu", "Ю"),
  ("J", "Ĵ"),
  ("Jie ", "界"),
  ("Jing ", "京"),
  ("K", "ĶǨΚКḰḲḴ"),
  ("Kh", "ΧХ"),
  ("L", "ĹĻĽŁΛЛḶḸḺḼ"),
  ("LJ", "Ǉ"),
  ("Lj", "ǈ"),
  ("M", "ΜМḾṀṂ"),
  ("Ma ", "嗎"),
  ("N", "ÑŃŅŇǸΝНṄṆṈṊ"),
  ("NG", "Ŋ"),
  ("NJ", "Ǌ"),
  ("Ni ", "你"),
  ("Nj", "ǋ"),
  ("O", "ÒÓÔÕÖØŌŎŐƠǑǪǬǾȌȎȪȬȮȰΟΩОṌṎṐṒỌỎỐỒỔỖỘỚỜỞỠỢ"),
  ("OE", "Œ"),
  ("P", "¶ΠПṔṖ"),
  ("PS", "£"),
  ("Ph", "Φ"),
  ("Ps", "Ψ"),
  ("R", "ŔŖŘȐȒΡРṘṚṜṞ"),
  ("Ren ", "人"),
  ("Ri ", "日"),
  ("S", "ŚŜŞŠȘΣСṠṢṤṦṨ"),
  ("SS", "§"),
  ("Sh", "Ш"),
  ("Shang ", "上"),
  ("Shch", "Щ"),
  ("Shi ", "世市是師試试"),
  ("Ss", "ẞ"),
  ("T", "ŢŤŦȚΤТṪṬṮṰ"),
  ("Th", "ÞΘ"),
  ("Ts", "Ц"),
  ("U", "ÙÚÛÜŨŪŬŮŰŲƯǓǕǗǙǛȔȖΥУṲṴṶṸṺỤỦỨỪỬỮỰ"),
  ("V", "ВṼṾ"),
  ("W", "ŴẀẂẄẆẈ"),
  ("Wen ", "文"),
  ("Wo ", "我"),
  ("X", "ΞẊẌ"),
  ("Xiao ", "小"),
  ("Xue ", "學学"),
  ("Y", "ÝŶŸȲЫẎỲỴỶỸ"),
  ("Y=", "¥"),
  ("Ying ", "影"),
  ("Yu ", "語语"),
  ("Z", "ŹŻŽΖЗẐẒẔ"),
  ("Zh", "Ж"),
  ("Zhong ", "中"),
  ("Zi ", "字"),
  ("a", "àáâãäåāăąǎǟǡǻȁȃȧάαаḁạảấầẩẫậắằẳẵặª"),
  ("ae", "æǣǽ"),
  ("b", "βбḃḅḇ"),
  ("c", "çćĉċčḉ"),
  ("cat ", "🐱"),
  ("ch", "ч"),
  ("crab ", "🦀"),
  ("d", "ðďđδдḋḍḏḑḓ"),
  ("deg", "°"),
  ("dog ", "🐶"),
  ("dz", "ǆǳ"),
  ("e", "èéêëēĕėęěȅȇȩέήεηеэḕḗḙḛḝẹẻẽếềểễệ"),
  ("f", "фḟ"),
  ("ff", "ﬀ"),
  ("ffi", "ﬃ"),
  ("ffl", "ﬄ"),
  ("fi", "ﬁ"),
  ("fire ", "🔥"),
  ("fl", "ﬂ"),
  ("g", "ĝğġģǧǵγгḡ"),
  ("grinning ", "😀"),
  ("h", "ĥħȟḣḥḧḩḫẖ"),
  ("heart ", "❤"),
  ("i", "ìíîïĩīĭįıǐȉȋΐίιϊийḭḯỉị"),
  ("ia", "я"),
  ("ij", "ĳ"),
  ("io", "ё"),
  ("iu", "ю"),
  ("j", "ĵǰ"),
  ("k", "ķĸǩκкḱḳḵ"),
  ("kh", "χх"),
  ("l", "ĺļľłλлḷḹḻḽ"),
  ("lj", "ǉ"),
  ("m", "μмḿṁṃ"),
  ("n", "ñńņňǹνнṅṇṉṋ"),
  ("ng", "ŋ"),
  ("nj", "ǌ"),
  ("o", "òóôõöøōŏőơǒǫǭǿȍȏȫȭȯȱοωόώоṍṏṑṓọỏốồổỗộớờởỡợº"),
  ("oe", "œ"),
  ("p", "πпṕṗ"),
  ("ph", "φ"),
  ("ps", "ψ"),
  ("r", "ŕŗřȑȓρрṙṛṝṟ"),
  ("rocket ", "🚀"),
  ("s", "śŝşšſșςσсṡṣṥṧṩẛ"),
  ("sh", "ш"),
  ("shch", "щ"),
  ("sparkles ", "✨"),
  ("ss", "ß"),
  ("st", "ﬅﬆ"),
  ("t", "ţťŧțτтṫṭṯṱẗ"),
  ("tada ", "🎉"),
  ("th", "þθ"),
  ("tm", "™"),
  ("ts", "ц"),
  ("u", "µùúûüũūŭůűųưǔǖǘǚǜȕȗΰυϋύуṳṵṷṹṻụủứừửữự"),
  ("unicorn ", "🦄"),
  ("v", "вṽṿ"),
  ("w", "ŵẁẃẅẇẉẘ"),
  ("wave ", "👋"),
  ("x", "×ξẋẍ"),
  ("y", "ýÿŷȳыẏẙỳỵỷỹ"),
  ("z", "źżžζзẑẓẕ"),
  ("zh", "ж")]

end ApiStencil.Text.Table
