import Localization.Locale.Record
import Localization.Locale.Tag

/-! # Conventions of some locales

One record for each of some locales whose conventions differ from those of their parents, an
excerpt of the data that programs come with. A locale without a record goes by the record of
the locale that its tag begins with.
-/
namespace Localization.Locale

def arabic : Record where
  decimalPoint := "."
  groupMark := ","
  grouping := ⟨3, 3⟩
  percentSign := "%"
  currency := ⟨"\u200f", "\u00a0¤"⟩
  negativeCurrency := ⟨"\u200f-", "\u00a0¤"⟩
  compact :=
    [⟨14, .scaled 3 "\u00a0ترليون" "\u00a0ترليون"⟩,
     ⟨13, .scaled 2 "\u00a0ترليون" "\u00a0ترليون"⟩,
     ⟨12, .scaled 1 "\u00a0ترليون" "\u00a0ترليون"⟩, ⟨11, .scaled 3 "\u00a0مليار" "\u00a0مليار"⟩,
     ⟨10, .scaled 2 "\u00a0مليار" "\u00a0مليار"⟩, ⟨9, .scaled 1 "\u00a0مليار" "\u00a0مليار"⟩,
     ⟨8, .scaled 3 "\u00a0مليون" "\u00a0مليون"⟩, ⟨7, .scaled 2 "\u00a0مليون" "\u00a0مليون"⟩,
     ⟨6, .scaled 1 "\u00a0مليون" "\u00a0مليون"⟩, ⟨5, .scaled 3 "\u00a0ألف" "\u00a0ألف"⟩,
     ⟨4, .scaled 2 "\u00a0ألف" "\u00a0ألف"⟩, ⟨3, .scaled 1 "\u00a0ألف" "\u00a0آلاف"⟩]
  shortDate := [.day, .text "\u200f/", .month, .text "\u200f/", .year]
  mediumDate := [.paddedDay, .text "\u200f/", .paddedMonth, .text "\u200f/", .year]
  longDate := [.day, .text " ", .longMonth, .text " ", .year]
  fullDate := [.weekday, .text "، ", .day, .text " ", .longMonth, .text " ", .year]
  months :=
    ["يناير", "فبراير", "مارس", "أبريل", "مايو", "يونيو", "يوليو", "أغسطس", "سبتمبر", "أكتوبر",
     "نوفمبر", "ديسمبر"]
  shortMonths :=
    ["يناير", "فبراير", "مارس", "أبريل", "مايو", "يونيو", "يوليو", "أغسطس", "سبتمبر", "أكتوبر",
     "نوفمبر", "ديسمبر"]
  weekdays :=
    ["الاثنين", "الثلاثاء", "الأربعاء", "الخميس", "الجمعة", "السبت", "الأحد"]
  conjunction := ⟨some " و", some " و", some " و", some " و"⟩
  disjunction := ⟨some " أو ", some " أو ", some " أو ", some " أو "⟩
  unit := ⟨some "، و", some "، و", some "، و", none⟩
  symbols :=
    [("BRL", "R$"), ("EUR", "€"), ("GBP", "UK£"), ("INR", "₹"), ("JPY", "JP¥"),
     ("KWD", "د.ك.\u200f"), ("USD", "US$"), ("XXX", "¤")]

def czech : Record where
  decimalPoint := ","
  groupMark := "\u00a0"
  grouping := ⟨3, 3⟩
  percentSign := "\u00a0%"
  currency := ⟨"", "\u00a0¤"⟩
  negativeCurrency := ⟨"-", "\u00a0¤"⟩
  compact :=
    [⟨14, .scaled 3 "\u00a0bil." "\u00a0bil."⟩, ⟨13, .scaled 2 "\u00a0bil." "\u00a0bil."⟩,
     ⟨12, .scaled 1 "\u00a0bil." "\u00a0bil."⟩, ⟨11, .scaled 3 "\u00a0mld." "\u00a0mld."⟩,
     ⟨10, .scaled 2 "\u00a0mld." "\u00a0mld."⟩, ⟨9, .scaled 1 "\u00a0mld." "\u00a0mld."⟩,
     ⟨8, .scaled 3 "\u00a0mil." "\u00a0mil."⟩, ⟨7, .scaled 2 "\u00a0mil." "\u00a0mil."⟩,
     ⟨6, .scaled 1 "\u00a0mil." "\u00a0mil."⟩, ⟨5, .scaled 3 "\u00a0tis." "\u00a0tis."⟩,
     ⟨4, .scaled 2 "\u00a0tis." "\u00a0tis."⟩, ⟨3, .scaled 1 "\u00a0tis." "\u00a0tis."⟩]
  shortDate := [.paddedDay, .text ".", .paddedMonth, .text ".", .shortYear]
  mediumDate := [.day, .text ". ", .month, .text ". ", .year]
  longDate := [.day, .text ". ", .longMonth, .text " ", .year]
  fullDate := [.weekday, .text " ", .day, .text ". ", .longMonth, .text " ", .year]
  months :=
    ["ledna", "února", "března", "dubna", "května", "června", "července", "srpna", "září",
     "října", "listopadu", "prosince"]
  shortMonths :=
    ["led", "úno", "bře", "dub", "kvě", "čvn", "čvc", "srp", "zář", "říj", "lis", "pro"]
  weekdays :=
    ["pondělí", "úterý", "středa", "čtvrtek", "pátek", "sobota", "neděle"]
  conjunction := ⟨some ", ", some ", ", some " a\u00a0", some " a\u00a0"⟩
  disjunction := ⟨some ", ", some ", ", some " nebo ", some " nebo "⟩
  unit := ⟨none, none, none, some " a\u00a0"⟩
  symbols :=
    [("BRL", "R$"), ("EUR", "€"), ("GBP", "£"), ("JPY", "JP¥"), ("USD", "US$")]

def german : Record where
  decimalPoint := ","
  groupMark := "."
  grouping := ⟨3, 3⟩
  percentSign := "\u00a0%"
  currency := ⟨"", "\u00a0¤"⟩
  negativeCurrency := ⟨"-", "\u00a0¤"⟩
  compact :=
    [⟨14, .scaled 3 "\u00a0Bio." "\u00a0Bio."⟩, ⟨13, .scaled 2 "\u00a0Bio." "\u00a0Bio."⟩,
     ⟨12, .scaled 1 "\u00a0Bio." "\u00a0Bio."⟩, ⟨11, .scaled 3 "\u00a0Mrd." "\u00a0Mrd."⟩,
     ⟨10, .scaled 2 "\u00a0Mrd." "\u00a0Mrd."⟩, ⟨9, .scaled 1 "\u00a0Mrd." "\u00a0Mrd."⟩,
     ⟨8, .scaled 3 "\u00a0Mio." "\u00a0Mio."⟩, ⟨7, .scaled 2 "\u00a0Mio." "\u00a0Mio."⟩,
     ⟨6, .scaled 1 "\u00a0Mio." "\u00a0Mio."⟩, ⟨5, .whole⟩, ⟨4, .whole⟩, ⟨3, .whole⟩]
  shortDate := [.paddedDay, .text ".", .paddedMonth, .text ".", .shortYear]
  mediumDate := [.paddedDay, .text ".", .paddedMonth, .text ".", .year]
  longDate := [.day, .text ". ", .longMonth, .text " ", .year]
  fullDate := [.weekday, .text ", ", .day, .text ". ", .longMonth, .text " ", .year]
  months :=
    ["Januar", "Februar", "März", "April", "Mai", "Juni", "Juli", "August", "September",
     "Oktober", "November", "Dezember"]
  shortMonths :=
    ["Jan.", "Feb.", "März", "Apr.", "Mai", "Juni", "Juli", "Aug.", "Sept.", "Okt.", "Nov.",
     "Dez."]
  weekdays :=
    ["Montag", "Dienstag", "Mittwoch", "Donnerstag", "Freitag", "Samstag", "Sonntag"]
  conjunction := ⟨some ", ", some ", ", some " und ", some " und "⟩
  disjunction := ⟨some ", ", some ", ", some " oder ", some " oder "⟩
  unit := ⟨none, none, none, some ", "⟩
  symbols :=
    [("BRL", "R$"), ("EUR", "€"), ("GBP", "£"), ("INR", "₹"), ("JPY", "¥"), ("USD", "$"),
     ("XXX", "¤")]

def swissGerman : Record where
  decimalPoint := "."
  groupMark := "’"
  grouping := ⟨3, 3⟩
  percentSign := "%"
  currency := ⟨"¤\u00a0", ""⟩
  negativeCurrency := ⟨"¤-", ""⟩
  compact :=
    [⟨14, .scaled 3 "\u00a0Bio." "\u00a0Bio."⟩, ⟨13, .scaled 2 "\u00a0Bio." "\u00a0Bio."⟩,
     ⟨12, .scaled 1 "\u00a0Bio." "\u00a0Bio."⟩, ⟨11, .scaled 3 "\u00a0Mrd." "\u00a0Mrd."⟩,
     ⟨10, .scaled 2 "\u00a0Mrd." "\u00a0Mrd."⟩, ⟨9, .scaled 1 "\u00a0Mrd." "\u00a0Mrd."⟩,
     ⟨8, .scaled 3 "\u00a0Mio." "\u00a0Mio."⟩, ⟨7, .scaled 2 "\u00a0Mio." "\u00a0Mio."⟩,
     ⟨6, .scaled 1 "\u00a0Mio." "\u00a0Mio."⟩, ⟨5, .whole⟩, ⟨4, .whole⟩, ⟨3, .whole⟩]
  shortDate := [.paddedDay, .text ".", .paddedMonth, .text ".", .shortYear]
  mediumDate := [.paddedDay, .text ".", .paddedMonth, .text ".", .year]
  longDate := [.day, .text ". ", .longMonth, .text " ", .year]
  fullDate := [.weekday, .text ", ", .day, .text ". ", .longMonth, .text " ", .year]
  months :=
    ["Januar", "Februar", "März", "April", "Mai", "Juni", "Juli", "August", "September",
     "Oktober", "November", "Dezember"]
  shortMonths :=
    ["Jan.", "Feb.", "März", "Apr.", "Mai", "Juni", "Juli", "Aug.", "Sept.", "Okt.", "Nov.",
     "Dez."]
  weekdays :=
    ["Montag", "Dienstag", "Mittwoch", "Donnerstag", "Freitag", "Samstag", "Sonntag"]
  conjunction := ⟨some ", ", some ", ", some " und ", some " und "⟩
  disjunction := ⟨some ", ", some ", ", some " oder ", some " oder "⟩
  unit := ⟨none, none, none, some ", "⟩
  symbols :=
    [("BRL", "R$"), ("GBP", "£"), ("INR", "₹"), ("JPY", "¥"), ("USD", "$"), ("XXX", "¤")]

def english : Record where
  decimalPoint := "."
  groupMark := ","
  grouping := ⟨3, 3⟩
  percentSign := "%"
  currency := ⟨"¤", ""⟩
  negativeCurrency := ⟨"-¤", ""⟩
  compact :=
    [⟨14, .scaled 3 "T" "T"⟩, ⟨13, .scaled 2 "T" "T"⟩, ⟨12, .scaled 1 "T" "T"⟩,
     ⟨11, .scaled 3 "B" "B"⟩, ⟨10, .scaled 2 "B" "B"⟩, ⟨9, .scaled 1 "B" "B"⟩,
     ⟨8, .scaled 3 "M" "M"⟩, ⟨7, .scaled 2 "M" "M"⟩, ⟨6, .scaled 1 "M" "M"⟩,
     ⟨5, .scaled 3 "K" "K"⟩, ⟨4, .scaled 2 "K" "K"⟩, ⟨3, .scaled 1 "K" "K"⟩]
  shortDate := [.month, .text "/", .day, .text "/", .shortYear]
  mediumDate := [.shortMonth, .text " ", .day, .text ", ", .year]
  longDate := [.longMonth, .text " ", .day, .text ", ", .year]
  fullDate := [.weekday, .text ", ", .longMonth, .text " ", .day, .text ", ", .year]
  months :=
    ["January", "February", "March", "April", "May", "June", "July", "August", "September",
     "October", "November", "December"]
  shortMonths :=
    ["Jan", "Feb", "Mar", "Apr", "May", "Jun", "Jul", "Aug", "Sep", "Oct", "Nov", "Dec"]
  weekdays :=
    ["Monday", "Tuesday", "Wednesday", "Thursday", "Friday", "Saturday", "Sunday"]
  conjunction := ⟨some ", ", some ", ", some ", and ", some " and "⟩
  disjunction := ⟨some ", ", some ", ", some ", or ", some " or "⟩
  unit := ⟨some ", ", some ", ", some ", ", some ", "⟩
  symbols :=
    [("BRL", "R$"), ("EUR", "€"), ("GBP", "£"), ("INR", "₹"), ("JPY", "¥"), ("USD", "$"),
     ("XXX", "¤")]

def britishEnglish : Record where
  decimalPoint := "."
  groupMark := ","
  grouping := ⟨3, 3⟩
  percentSign := "%"
  currency := ⟨"¤", ""⟩
  negativeCurrency := ⟨"-¤", ""⟩
  compact :=
    [⟨14, .scaled 3 "T" "T"⟩, ⟨13, .scaled 2 "T" "T"⟩, ⟨12, .scaled 1 "T" "T"⟩,
     ⟨11, .scaled 3 "B" "B"⟩, ⟨10, .scaled 2 "B" "B"⟩, ⟨9, .scaled 1 "B" "B"⟩,
     ⟨8, .scaled 3 "M" "M"⟩, ⟨7, .scaled 2 "M" "M"⟩, ⟨6, .scaled 1 "M" "M"⟩,
     ⟨5, .scaled 3 "K" "K"⟩, ⟨4, .scaled 2 "K" "K"⟩, ⟨3, .scaled 1 "K" "K"⟩]
  shortDate := [.paddedDay, .text "/", .paddedMonth, .text "/", .year]
  mediumDate := [.day, .text " ", .shortMonth, .text " ", .year]
  longDate := [.day, .text " ", .longMonth, .text " ", .year]
  fullDate := [.weekday, .text ", ", .day, .text " ", .longMonth, .text " ", .year]
  months :=
    ["January", "February", "March", "April", "May", "June", "July", "August", "September",
     "October", "November", "December"]
  shortMonths :=
    ["Jan", "Feb", "Mar", "Apr", "May", "Jun", "Jul", "Aug", "Sept", "Oct", "Nov", "Dec"]
  weekdays :=
    ["Monday", "Tuesday", "Wednesday", "Thursday", "Friday", "Saturday", "Sunday"]
  conjunction := ⟨some ", ", some ", ", some " and ", some " and "⟩
  disjunction := ⟨some ", ", some ", ", some " or ", some " or "⟩
  unit := ⟨some ", ", some ", ", some ", ", some ", "⟩
  symbols :=
    [("BRL", "R$"), ("EUR", "€"), ("GBP", "£"), ("INR", "₹"), ("JPY", "JP¥"), ("USD", "US$"),
     ("XXX", "¤")]

def indianEnglish : Record where
  decimalPoint := "."
  groupMark := ","
  grouping := ⟨3, 2⟩
  percentSign := "%"
  currency := ⟨"¤", ""⟩
  negativeCurrency := ⟨"-¤", ""⟩
  compact :=
    [⟨14, .scaled 3 "LCr" "LCr"⟩, ⟨13, .scaled 2 "LCr" "LCr"⟩, ⟨12, .scaled 1 "LCr" "LCr"⟩,
     ⟨11, .scaled 2 "KCr" "KCr"⟩, ⟨10, .scaled 1 "KCr" "KCr"⟩, ⟨9, .scaled 3 "Cr" "Cr"⟩,
     ⟨8, .scaled 2 "Cr" "Cr"⟩, ⟨7, .scaled 1 "Cr" "Cr"⟩, ⟨6, .scaled 2 "L" "L"⟩,
     ⟨5, .scaled 1 "L" "L"⟩, ⟨4, .scaled 2 "K" "K"⟩, ⟨3, .scaled 1 "K" "K"⟩]
  shortDate := [.paddedDay, .text "/", .paddedMonth, .text "/", .shortYear]
  mediumDate := [.day, .text " ", .shortMonth, .text " ", .year]
  longDate := [.day, .text " ", .longMonth, .text " ", .year]
  fullDate := [.weekday, .text ", ", .day, .text " ", .longMonth, .text " ", .year]
  months :=
    ["January", "February", "March", "April", "May", "June", "July", "August", "September",
     "October", "November", "December"]
  shortMonths :=
    ["Jan", "Feb", "Mar", "Apr", "May", "Jun", "Jul", "Aug", "Sept", "Oct", "Nov", "Dec"]
  weekdays :=
    ["Monday", "Tuesday", "Wednesday", "Thursday", "Friday", "Saturday", "Sunday"]
  conjunction := ⟨some ", ", some ", ", some " and ", some " and "⟩
  disjunction := ⟨some ", ", some ", ", some " or ", some " or "⟩
  unit := ⟨some ", ", some ", ", some ", ", some ", "⟩
  symbols :=
    [("BRL", "R$"), ("EUR", "€"), ("GBP", "£"), ("INR", "₹"), ("JPY", "JP¥"), ("USD", "$"),
     ("XXX", "¤")]

def spanish : Record where
  decimalPoint := ","
  groupMark := "."
  grouping := ⟨3, 3⟩
  percentSign := "\u00a0%"
  currency := ⟨"", "\u00a0¤"⟩
  negativeCurrency := ⟨"-", "\u00a0¤"⟩
  compact :=
    [⟨14, .scaled 3 "\u00a0B" "\u00a0B"⟩, ⟨13, .scaled 2 "\u00a0B" "\u00a0B"⟩,
     ⟨12, .scaled 1 "\u00a0B" "\u00a0B"⟩, ⟨11, .scaled 3 "\u00a0mil\u00a0M" "\u00a0mil\u00a0M"⟩,
     ⟨10, .scaled 2 "\u00a0mil\u00a0M" "\u00a0mil\u00a0M"⟩, ⟨9, .scaled 4 "\u00a0M" "\u00a0M"⟩,
     ⟨8, .scaled 3 "\u00a0M" "\u00a0M"⟩, ⟨7, .scaled 2 "\u00a0M" "\u00a0M"⟩,
     ⟨6, .scaled 1 "\u00a0M" "\u00a0M"⟩, ⟨5, .scaled 3 "\u00a0mil" "\u00a0mil"⟩,
     ⟨4, .scaled 2 "\u00a0mil" "\u00a0mil"⟩, ⟨3, .scaled 1 "\u00a0mil" "\u00a0mil"⟩]
  shortDate := [.day, .text "/", .month, .text "/", .shortYear]
  mediumDate := [.day, .text " ", .shortMonth, .text " ", .year]
  longDate := [.day, .text " de ", .longMonth, .text " de ", .year]
  fullDate := [.weekday, .text ", ", .day, .text " de ", .longMonth, .text " de ", .year]
  months :=
    ["enero", "febrero", "marzo", "abril", "mayo", "junio", "julio", "agosto", "septiembre",
     "octubre", "noviembre", "diciembre"]
  shortMonths :=
    ["ene", "feb", "mar", "abr", "may", "jun", "jul", "ago", "sept", "oct", "nov", "dic"]
  weekdays :=
    ["lunes", "martes", "miércoles", "jueves", "viernes", "sábado", "domingo"]
  conjunction := ⟨some ", ", some ", ", some " y ", some " y "⟩
  disjunction := ⟨some ", ", some ", ", some " o ", some " o "⟩
  unit := ⟨none, none, some " y ", none⟩
  symbols :=
    [("EUR", "€"), ("USD", "US$"), ("XXX", "¤")]

def french : Record where
  decimalPoint := ","
  groupMark := "\u202f"
  grouping := ⟨3, 3⟩
  percentSign := "\u00a0%"
  currency := ⟨"", "\u00a0¤"⟩
  negativeCurrency := ⟨"-", "\u00a0¤"⟩
  compact :=
    [⟨14, .scaled 3 "\u00a0Bn" "\u00a0Bn"⟩, ⟨13, .scaled 2 "\u00a0Bn" "\u00a0Bn"⟩,
     ⟨12, .scaled 1 "\u00a0Bn" "\u00a0Bn"⟩, ⟨11, .scaled 3 "\u00a0Md" "\u00a0Md"⟩,
     ⟨10, .scaled 2 "\u00a0Md" "\u00a0Md"⟩, ⟨9, .scaled 1 "\u00a0Md" "\u00a0Md"⟩,
     ⟨8, .scaled 3 "\u00a0M" "\u00a0M"⟩, ⟨7, .scaled 2 "\u00a0M" "\u00a0M"⟩,
     ⟨6, .scaled 1 "\u00a0M" "\u00a0M"⟩, ⟨5, .scaled 3 "\u00a0k" "\u00a0k"⟩,
     ⟨4, .scaled 2 "\u00a0k" "\u00a0k"⟩, ⟨3, .scaled 1 "\u00a0k" "\u00a0k"⟩]
  shortDate := [.paddedDay, .text "/", .paddedMonth, .text "/", .year]
  mediumDate := [.day, .text " ", .shortMonth, .text " ", .year]
  longDate := [.day, .text " ", .longMonth, .text " ", .year]
  fullDate := [.weekday, .text " ", .day, .text " ", .longMonth, .text " ", .year]
  months :=
    ["janvier", "février", "mars", "avril", "mai", "juin", "juillet", "août", "septembre",
     "octobre", "novembre", "décembre"]
  shortMonths :=
    ["janv.", "févr.", "mars", "avr.", "mai", "juin", "juil.", "août", "sept.", "oct.", "nov.",
     "déc."]
  weekdays :=
    ["lundi", "mardi", "mercredi", "jeudi", "vendredi", "samedi", "dimanche"]
  conjunction := ⟨some ", ", some ", ", some " et ", some " et "⟩
  disjunction := ⟨some ", ", some ", ", some " ou ", some " ou "⟩
  unit := ⟨some ", ", some ", ", some " et ", some " et "⟩
  symbols :=
    [("BRL", "R$"), ("EUR", "€"), ("GBP", "£GB"), ("INR", "₹"), ("USD", "$US"), ("XXX", "¤")]

def hindi : Record where
  decimalPoint := "."
  groupMark := ","
  grouping := ⟨3, 2⟩
  percentSign := "%"
  currency := ⟨"¤", ""⟩
  negativeCurrency := ⟨"-¤", ""⟩
  compact :=
    [⟨14, .scaled 2 "\u00a0नील" "\u00a0नील"⟩, ⟨13, .scaled 1 "\u00a0नील" "\u00a0नील"⟩,
     ⟨12, .scaled 2 "\u00a0ख॰" "\u00a0ख॰"⟩, ⟨11, .scaled 1 "\u00a0ख॰" "\u00a0ख॰"⟩,
     ⟨10, .scaled 2 "\u00a0अ॰" "\u00a0अ॰"⟩, ⟨9, .scaled 1 "\u00a0अ॰" "\u00a0अ॰"⟩,
     ⟨8, .scaled 2 "\u00a0क॰" "\u00a0क॰"⟩, ⟨7, .scaled 1 "\u00a0क॰" "\u00a0क॰"⟩,
     ⟨6, .scaled 2 "\u00a0लाख" "\u00a0लाख"⟩, ⟨5, .scaled 1 "\u00a0लाख" "\u00a0लाख"⟩,
     ⟨4, .scaled 2 "\u00a0हज़ार" "\u00a0हज़ार"⟩, ⟨3, .scaled 1 "\u00a0हज़ार" "\u00a0हज़ार"⟩]
  shortDate := [.day, .text "/", .month, .text "/", .shortYear]
  mediumDate := [.day, .text " ", .shortMonth, .text " ", .year]
  longDate := [.day, .text " ", .longMonth, .text " ", .year]
  fullDate := [.weekday, .text ", ", .day, .text " ", .longMonth, .text " ", .year]
  months :=
    ["जनवरी", "फ़रवरी", "मार्च", "अप्रैल", "मई", "जून", "जुलाई", "अगस्त", "सितंबर", "अक्टूबर",
     "नवंबर", "दिसंबर"]
  shortMonths :=
    ["जन॰", "फ़र॰", "मार्च", "अप्रैल", "मई", "जून", "जुल॰", "अग॰", "सित॰", "अक्टू॰", "नव॰",
     "दिस॰"]
  weekdays :=
    ["सोमवार", "मंगलवार", "बुधवार", "गुरुवार", "शुक्रवार", "शनिवार", "रविवार"]
  conjunction := ⟨some ", ", some ", ", some ", और ", some " और "⟩
  disjunction := ⟨some ", ", some ", ", some " या ", some " या "⟩
  unit := ⟨none, none, some ", और ", some " और "⟩
  symbols :=
    [("BRL", "R$"), ("EUR", "€"), ("GBP", "£"), ("INR", "₹"), ("JPY", "JP¥"), ("USD", "$"),
     ("XXX", "¤")]

def italian : Record where
  decimalPoint := ","
  groupMark := "."
  grouping := ⟨3, 3⟩
  percentSign := "%"
  currency := ⟨"", "\u00a0¤"⟩
  negativeCurrency := ⟨"-", "\u00a0¤"⟩
  compact :=
    [⟨14, .scaled 3 "\u00a0Bln" "\u00a0Bln"⟩, ⟨13, .scaled 2 "\u00a0Bln" "\u00a0Bln"⟩,
     ⟨12, .scaled 1 "\u00a0Bln" "\u00a0Bln"⟩, ⟨11, .scaled 3 "\u00a0Mld" "\u00a0Mld"⟩,
     ⟨10, .scaled 2 "\u00a0Mld" "\u00a0Mld"⟩, ⟨9, .scaled 1 "\u00a0Mld" "\u00a0Mld"⟩,
     ⟨8, .scaled 3 "\u00a0Mln" "\u00a0Mln"⟩, ⟨7, .scaled 2 "\u00a0Mln" "\u00a0Mln"⟩,
     ⟨6, .scaled 1 "\u00a0Mln" "\u00a0Mln"⟩, ⟨5, .whole⟩, ⟨4, .whole⟩, ⟨3, .whole⟩]
  shortDate := [.paddedDay, .text "/", .paddedMonth, .text "/", .shortYear]
  mediumDate := [.day, .text " ", .shortMonth, .text " ", .year]
  longDate := [.day, .text " ", .longMonth, .text " ", .year]
  fullDate := [.weekday, .text " ", .day, .text " ", .longMonth, .text " ", .year]
  months :=
    ["gennaio", "febbraio", "marzo", "aprile", "maggio", "giugno", "luglio", "agosto",
     "settembre", "ottobre", "novembre", "dicembre"]
  shortMonths :=
    ["gen", "feb", "mar", "apr", "mag", "giu", "lug", "ago", "set", "ott", "nov", "dic"]
  weekdays :=
    ["lunedì", "martedì", "mercoledì", "giovedì", "venerdì", "sabato", "domenica"]
  conjunction := ⟨some ", ", some ", ", some " e ", some " e "⟩
  disjunction := ⟨some ", ", some ", ", some " o ", some " o "⟩
  unit := ⟨some ", ", some ", ", some " e ", some " e "⟩
  symbols :=
    [("EUR", "€"), ("GBP", "£"), ("XXX", "¤")]

def japanese : Record where
  decimalPoint := "."
  groupMark := ","
  grouping := ⟨3, 3⟩
  percentSign := "%"
  currency := ⟨"¤", ""⟩
  negativeCurrency := ⟨"-¤", ""⟩
  compact :=
    [⟨19, .scaled 4 "京" "京"⟩, ⟨18, .scaled 3 "京" "京"⟩, ⟨17, .scaled 2 "京" "京"⟩,
     ⟨16, .scaled 1 "京" "京"⟩, ⟨15, .scaled 4 "兆" "兆"⟩, ⟨14, .scaled 3 "兆" "兆"⟩,
     ⟨13, .scaled 2 "兆" "兆"⟩, ⟨12, .scaled 1 "兆" "兆"⟩, ⟨11, .scaled 4 "億" "億"⟩,
     ⟨10, .scaled 3 "億" "億"⟩, ⟨9, .scaled 2 "億" "億"⟩, ⟨8, .scaled 1 "億" "億"⟩,
     ⟨7, .scaled 4 "万" "万"⟩, ⟨6, .scaled 3 "万" "万"⟩, ⟨5, .scaled 2 "万" "万"⟩,
     ⟨4, .scaled 1 "万" "万"⟩, ⟨3, .whole⟩]
  shortDate := [.year, .text "/", .paddedMonth, .text "/", .paddedDay]
  mediumDate := [.year, .text "/", .paddedMonth, .text "/", .paddedDay]
  longDate := [.year, .text "年", .month, .text "月", .day, .text "日"]
  fullDate := [.year, .text "年", .month, .text "月", .day, .text "日", .weekday]
  months :=
    ["1月", "2月", "3月", "4月", "5月", "6月", "7月", "8月", "9月", "10月", "11月", "12月"]
  shortMonths :=
    ["1月", "2月", "3月", "4月", "5月", "6月", "7月", "8月", "9月", "10月", "11月", "12月"]
  weekdays :=
    ["月曜日", "火曜日", "水曜日", "木曜日", "金曜日", "土曜日", "日曜日"]
  conjunction := ⟨some "、", some "、", some "、", some "、"⟩
  disjunction := ⟨some "、", some "、", some "、または", some "または"⟩
  unit := ⟨some " ", some " ", some " ", some " "⟩
  symbols :=
    [("BRL", "R$"), ("EUR", "€"), ("GBP", "£"), ("INR", "₹"), ("JPY", "￥"), ("USD", "$"),
     ("XXX", "¤")]

def polish : Record where
  decimalPoint := ","
  groupMark := "\u00a0"
  grouping := ⟨3, 3⟩
  percentSign := "%"
  currency := ⟨"", "\u00a0¤"⟩
  negativeCurrency := ⟨"-", "\u00a0¤"⟩
  compact :=
    [⟨14, .scaled 3 "\u00a0bln" "\u00a0bln"⟩, ⟨13, .scaled 2 "\u00a0bln" "\u00a0bln"⟩,
     ⟨12, .scaled 1 "\u00a0bln" "\u00a0bln"⟩, ⟨11, .scaled 3 "\u00a0mld" "\u00a0mld"⟩,
     ⟨10, .scaled 2 "\u00a0mld" "\u00a0mld"⟩, ⟨9, .scaled 1 "\u00a0mld" "\u00a0mld"⟩,
     ⟨8, .scaled 3 "\u00a0mln" "\u00a0mln"⟩, ⟨7, .scaled 2 "\u00a0mln" "\u00a0mln"⟩,
     ⟨6, .scaled 1 "\u00a0mln" "\u00a0mln"⟩, ⟨5, .scaled 3 "\u00a0tys." "\u00a0tys."⟩,
     ⟨4, .scaled 2 "\u00a0tys." "\u00a0tys."⟩, ⟨3, .scaled 1 "\u00a0tys." "\u00a0tys."⟩]
  shortDate := [.day, .text ".", .paddedMonth, .text ".", .year]
  mediumDate := [.day, .text " ", .shortMonth, .text " ", .year]
  longDate := [.day, .text " ", .longMonth, .text " ", .year]
  fullDate := [.weekday, .text ", ", .day, .text " ", .longMonth, .text " ", .year]
  months :=
    ["stycznia", "lutego", "marca", "kwietnia", "maja", "czerwca", "lipca", "sierpnia",
     "września", "października", "listopada", "grudnia"]
  shortMonths :=
    ["sty", "lut", "mar", "kwi", "maj", "cze", "lip", "sie", "wrz", "paź", "lis", "gru"]
  weekdays :=
    ["poniedziałek", "wtorek", "środa", "czwartek", "piątek", "sobota", "niedziela"]
  conjunction := ⟨some ", ", some ", ", some " i ", some " i "⟩
  disjunction := ⟨some ", ", some ", ", some " lub ", some " lub "⟩
  unit := ⟨some ", ", some ", ", some " i ", some " i "⟩
  symbols :=
    [("BRL", "R$"), ("EUR", "€"), ("PLN", "zł"), ("XXX", "¤")]

def brazilianPortuguese : Record where
  decimalPoint := ","
  groupMark := "."
  grouping := ⟨3, 3⟩
  percentSign := "%"
  currency := ⟨"¤\u00a0", ""⟩
  negativeCurrency := ⟨"-¤\u00a0", ""⟩
  compact :=
    [⟨14, .scaled 3 "\u00a0tri" "\u00a0tri"⟩, ⟨13, .scaled 2 "\u00a0tri" "\u00a0tri"⟩,
     ⟨12, .scaled 1 "\u00a0tri" "\u00a0tri"⟩, ⟨11, .scaled 3 "\u00a0bi" "\u00a0bi"⟩,
     ⟨10, .scaled 2 "\u00a0bi" "\u00a0bi"⟩, ⟨9, .scaled 1 "\u00a0bi" "\u00a0bi"⟩,
     ⟨8, .scaled 3 "\u00a0mi" "\u00a0mi"⟩, ⟨7, .scaled 2 "\u00a0mi" "\u00a0mi"⟩,
     ⟨6, .scaled 1 "\u00a0mi" "\u00a0mi"⟩, ⟨5, .scaled 3 "\u00a0mil" "\u00a0mil"⟩,
     ⟨4, .scaled 2 "\u00a0mil" "\u00a0mil"⟩, ⟨3, .scaled 1 "\u00a0mil" "\u00a0mil"⟩]
  shortDate := [.paddedDay, .text "/", .paddedMonth, .text "/", .year]
  mediumDate := [.day, .text " de ", .shortMonth, .text " de ", .year]
  longDate := [.day, .text " de ", .longMonth, .text " de ", .year]
  fullDate := [.weekday, .text ", ", .day, .text " de ", .longMonth, .text " de ", .year]
  months :=
    ["janeiro", "fevereiro", "março", "abril", "maio", "junho", "julho", "agosto", "setembro",
     "outubro", "novembro", "dezembro"]
  shortMonths :=
    ["jan.", "fev.", "mar.", "abr.", "mai.", "jun.", "jul.", "ago.", "set.", "out.", "nov.",
     "dez."]
  weekdays :=
    ["segunda-feira", "terça-feira", "quarta-feira", "quinta-feira", "sexta-feira", "sábado",
     "domingo"]
  conjunction := ⟨some ", ", some ", ", some " e ", some " e "⟩
  disjunction := ⟨some ", ", some ", ", some " ou ", some " ou "⟩
  unit := ⟨some ", ", some ", ", some " e ", some " e "⟩
  symbols :=
    [("BRL", "R$"), ("EUR", "€"), ("GBP", "£"), ("INR", "₹"), ("JPY", "JP¥"), ("USD", "US$"),
     ("XXX", "¤")]

def russian : Record where
  decimalPoint := ","
  groupMark := "\u00a0"
  grouping := ⟨3, 3⟩
  percentSign := "\u00a0%"
  currency := ⟨"", "\u00a0¤"⟩
  negativeCurrency := ⟨"-", "\u00a0¤"⟩
  compact :=
    [⟨14, .scaled 3 "\u00a0трлн" "\u00a0трлн"⟩, ⟨13, .scaled 2 "\u00a0трлн" "\u00a0трлн"⟩,
     ⟨12, .scaled 1 "\u00a0трлн" "\u00a0трлн"⟩, ⟨11, .scaled 3 "\u00a0млрд" "\u00a0млрд"⟩,
     ⟨10, .scaled 2 "\u00a0млрд" "\u00a0млрд"⟩, ⟨9, .scaled 1 "\u00a0млрд" "\u00a0млрд"⟩,
     ⟨8, .scaled 3 "\u00a0млн" "\u00a0млн"⟩, ⟨7, .scaled 2 "\u00a0млн" "\u00a0млн"⟩,
     ⟨6, .scaled 1 "\u00a0млн" "\u00a0млн"⟩, ⟨5, .scaled 3 "\u00a0тыс." "\u00a0тыс."⟩,
     ⟨4, .scaled 2 "\u00a0тыс." "\u00a0тыс."⟩, ⟨3, .scaled 1 "\u00a0тыс." "\u00a0тыс."⟩]
  shortDate := [.paddedDay, .text ".", .paddedMonth, .text ".", .year]
  mediumDate := [.day, .text " ", .shortMonth, .text " ", .year, .text "\u202fг."]
  longDate := [.day, .text " ", .longMonth, .text " ", .year, .text "\u202fг."]
  fullDate := [.weekday, .text ", ", .day, .text " ", .longMonth, .text " ", .year, .text "\u202fг."]
  months :=
    ["января", "февраля", "марта", "апреля", "мая", "июня", "июля", "августа", "сентября",
     "октября", "ноября", "декабря"]
  shortMonths :=
    ["янв.", "февр.", "мар.", "апр.", "мая", "июн.", "июл.", "авг.", "сент.", "окт.", "нояб.",
     "дек."]
  weekdays :=
    ["понедельник", "вторник", "среда", "четверг", "пятница", "суббота", "воскресенье"]
  conjunction := ⟨some ", ", some ", ", some " и ", some " и "⟩
  disjunction := ⟨some ", ", some ", ", some " или ", some " или "⟩
  unit := ⟨some " ", some " ", some " ", some " "⟩
  symbols :=
    [("BRL", "R$"), ("EUR", "€"), ("GBP", "£"), ("INR", "₹"), ("JPY", "¥"), ("USD", "$"),
     ("XXX", "¤")]

def swedish : Record where
  decimalPoint := ","
  groupMark := "\u00a0"
  grouping := ⟨3, 3⟩
  percentSign := "\u00a0%"
  currency := ⟨"", "\u00a0¤"⟩
  negativeCurrency := ⟨"-", "\u00a0¤"⟩
  compact :=
    [⟨14, .scaled 3 "\u00a0bn" "\u00a0bn"⟩, ⟨13, .scaled 2 "\u00a0bn" "\u00a0bn"⟩,
     ⟨12, .scaled 1 "\u00a0bn" "\u00a0bn"⟩, ⟨11, .scaled 3 "\u00a0md" "\u00a0md"⟩,
     ⟨10, .scaled 2 "\u00a0md" "\u00a0md"⟩, ⟨9, .scaled 1 "\u00a0md" "\u00a0md"⟩,
     ⟨8, .scaled 3 "\u00a0mn" "\u00a0mn"⟩, ⟨7, .scaled 2 "\u00a0mn" "\u00a0mn"⟩,
     ⟨6, .scaled 1 "\u00a0mn" "\u00a0mn"⟩, ⟨5, .scaled 3 "\u00a0tn" "\u00a0tn"⟩,
     ⟨4, .scaled 2 "\u00a0tn" "\u00a0tn"⟩, ⟨3, .scaled 1 "\u00a0tn" "\u00a0tn"⟩]
  shortDate := [.year, .text "-", .paddedMonth, .text "-", .paddedDay]
  mediumDate := [.day, .text " ", .shortMonth, .text " ", .year]
  longDate := [.day, .text " ", .longMonth, .text " ", .year]
  fullDate := [.weekday, .text " ", .day, .text " ", .longMonth, .text " ", .year]
  months :=
    ["januari", "februari", "mars", "april", "maj", "juni", "juli", "augusti", "september",
     "oktober", "november", "december"]
  shortMonths :=
    ["jan.", "feb.", "mars", "apr.", "maj", "juni", "juli", "aug.", "sep.", "okt.", "nov.",
     "dec."]
  weekdays :=
    ["måndag", "tisdag", "onsdag", "torsdag", "fredag", "lördag", "söndag"]
  conjunction := ⟨some ", ", some ", ", some " och ", some " och "⟩
  disjunction := ⟨some ", ", some ", ", some " eller ", some " eller "⟩
  unit := ⟨none, none, some ", ", some ", "⟩
  symbols :=
    [("BRL", "BR$"), ("EUR", "€"), ("SEK", "kr"), ("USD", "US$"), ("XXX", "¤")]

def recordsByTag : List (String × Record) :=
  [("ar", arabic), ("cs", czech), ("de", german), ("de_CH", swissGerman), ("en", english),
   ("en_GB", britishEnglish), ("en_IN", indianEnglish), ("es", spanish), ("fr", french),
   ("hi", hindi), ("it", italian), ("ja", japanese), ("pl", polish),
   ("pt_BR", brazilianPortuguese), ("ru", russian), ("sv", swedish)]

/-- The first record among the tags of a locale and of its parents, nearest first. -/
def recordOfParts : List (List Char) → Option Record
  | [] => none
  | part :: parts =>
    (recordsByTag.lookup (String.ofList (Text.joinWith ['_'] (part :: parts).reverse))).or
      (recordOfParts parts)

def Tag.record (t : Tag) : Record :=
  (recordOfParts (Text.splitAt '_' t.base).reverse).getD english

theorem moderate_of_mem : ∀ r ∈ english :: recordsByTag.map Prod.snd,
    ∀ row ∈ r.compact.map RecordRow.row, row.Moderate 3 := by
  decide

theorem recordOfParts_mem {parts : List (List Char)} {r : Record}
    (found : recordOfParts parts = some r) : r ∈ recordsByTag.map Prod.snd := by
  induction parts with
  | nil => cases found
  | cons part parts ih =>
    rw [recordOfParts, Option.or_eq_some_iff] at found
    obtain here | ⟨-, there⟩ := found
    · obtain ⟨before, after, table, -⟩ := List.lookup_eq_some_iff.mp here
      rw [table]
      simp
    · exact ih there

/-- The short forms of every record are for numbers of a usual size. -/
theorem moderate_record (t : Tag) :
    ∀ row ∈ t.record.compact.map RecordRow.row, row.Moderate 3 := by
  apply moderate_of_mem
  rw [Tag.record]
  cases found : recordOfParts (Text.splitAt '_' t.base).reverse with
  | none => exact List.mem_cons_self
  | some r => exact List.mem_cons_of_mem _ (recordOfParts_mem found)

def Tag.conventions (t : Tag) : Conventions :=
  t.record.conventions (String.ofList t.text) (moderate_record t)

/-- Digits after the point of some currencies, where these are not two. -/
def currencyDigitsByCode : List (String × Nat) :=
  [("BHD", 3), ("CLF", 4), ("CLP", 0), ("ISK", 0), ("JOD", 3), ("JPY", 0), ("KRW", 0), ("KWD", 3),
   ("LYD", 3), ("OMR", 3), ("PYG", 0), ("TND", 3), ("UGX", 0), ("VND", 0), ("XAF", 0), ("XOF", 0),
   ("XPF", 0)]

theorem currencyDigits_le (code : String) : (currencyDigitsByCode.lookup code).getD 2 ≤ 100 := by
  cases found : currencyDigitsByCode.lookup code with
  | none => decide
  | some digits =>
    have listed : ∀ entry ∈ currencyDigitsByCode, entry.2 ≤ 100 := by decide
    obtain ⟨before, after, table, -⟩ := List.lookup_eq_some_iff.mp found
    exact listed (code, digits) (by rw [table]; simp)

namespace Excerpt

/-- An excerpt of the data of locales. -/
scoped instance data : Data where
  named? name := (tagOf? name).map Tag.conventions
  currencyDigits code := (currencyDigitsByCode.lookup code).getD 2
  named_english := by decide +kernel
  currencyDigits_le

end Excerpt

end Localization.Locale
