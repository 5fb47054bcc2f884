import ResourceSymbols.Charset.Page

/-!
# Pages in use

The pages of the vendors and of the standards, in the order of their names.
-/

namespace ResourceSymbols.Charset

/-- The pages. -/
def pages : List Page := [
  ⟨"cp037", none, [],
   [(0x4, ["\u009c\x09\u0086\x7f\u0097\u008d\u008e"]),
    (0x14, ["\u009d\u0085\x08\u0087\x18\x19\u0092\u008f"]),
    (0x20, ["\u0080\u0081\u0082\u0083\u0084\x0a\x17\x1b\u0088\u0089\u008a\u008b\u008c\x05\x06",
      "\x07\u0090\u0091\x16\u0093\u0094\u0095\u0096\x04\u0098\u0099\u009a\u009b\x14\x15",
      "\u009e\x1a \u00a0âäàáãåçñ¢.<(+|&éêëèíîïìß!$*);¬\x2d/ÂÄÀÁÃÅÇÑ¦,%_>?øÉÊËÈÍÎÏÌ\x60:#@",
      "\x27=\"Øabcdefghi«»ðýþ±°jklmnopqrªºæ¸Æ¤µ~stuvwxyz¡¿ÐÝÞ®^£¥·©§¶¼½¾[]¯¨´×\x7bABCDEFG",
      "HI\u00adôöòóõ\x7dJKLMNOPQR¹ûüùúÿ\\÷STUVWXYZ²ÔÖÒÓÕ0123456789³ÛÜÙÚ\u009f"])]⟩,
  ⟨"cp1006", some "Arabic", [],
   [(0xA1, ["۰۱۲۳۴۵۶۷۸۹،\u061b\u00ad\u061f\ufe81\ufe8d\ufe8e\ufe8e\ufe8f\ufe91\ufb56\ufb58",
      "\ufe93\ufe95\ufe97\ufb66\ufb68\ufe99\ufe9b\ufe9d\ufe9f\ufb7a\ufb7c\ufea1\ufea3",
      "\ufea5\ufea7\ufea9\ufb84\ufeab\ufead\ufb8c\ufeaf\ufb8a\ufeb1\ufeb3\ufeb5\ufeb7",
      "\ufeb9\ufebb\ufebd\ufebf\ufec1\ufec5\ufec9\ufeca\ufecb\ufecc\ufecd\ufece\ufecf",
      "\ufed0\ufed1\ufed3\ufed5\ufed7\ufed9\ufedb\ufb92\ufb94\ufedd\ufedf\ufee0\ufee1",
      "\ufee3\ufb9e\ufee5\ufee7\ufe85\ufeed\ufba6\ufba8\ufba9\ufbaa\ufe80\ufe89\ufe8a",
      "\ufe8b\ufef1\ufef2\ufef3\ufbb0\ufbae\ufe7c\ufe7d"])]⟩,
  ⟨"cp1026", none, ["cp037"],
   [(0x4, ["\u009c\x09\u0086\x7f\u0097\u008d\u008e"]),
    (0x14, ["\u009d\u0085\x08\u0087\x18\x19\u0092\u008f"]),
    (0x20, ["\u0080\u0081\u0082\u0083\u0084\x0a\x17\x1b\u0088\u0089\u008a\u008b\u008c\x05\x06",
      "\x07\u0090\u0091\x16\u0093\u0094\u0095\u0096\x04\u0098\u0099\u009a\u009b\x14\x15",
      "\u009e\x1a \u00a0âäàáãå\x7bñÇ.<(+!&éêëèíîïìßĞİ*);^\x2d/ÂÄÀÁÃÅ[Ñş,%_>?øÉÊËÈÍÎÏÌı:ÖŞ",
      "\x27=ÜØabcdefghi«»\x7d\x60¦±°jklmnopqrªºæ¸Æ¤µöstuvwxyz¡¿]$@®¢£¥·©§¶¼½¾¬|¯¨´×çABCDE",
      "FGHI\u00adô~òóõğJKLMNOPQR¹û\\ùúÿü÷STUVWXYZ²Ô#ÒÓÕ0123456789³Û\"ÙÚ\u009f"])]⟩,
  ⟨"cp1125", some "Cyrillic", [],
   [(0x80, ["АБВГДЕЖЗИЙКЛМНОПРСТУФХЦЧШЩЪЫЬЭЮЯабвгдежзийклмноп░▒▓│┤╡╢╖╕╣║╗╝╜╛┐└┴┬├─┼╞╟╚╔╩╦╠═╬╧╨╤",
      "╥╙╘╒╓╫╪┘┌█▄▌▐▀рстуфхцчшщъыьэюяЁёҐґЄєІіЇї·√№¤■\u00a0"])]⟩,
  ⟨"cp1140", none, ["cp037", "cp1026"],
   [(0x4, ["\u009c\x09\u0086\x7f\u0097\u008d\u008e"]),
    (0x14, ["\u009d\u0085\x08\u0087\x18\x19\u0092\u008f"]),
    (0x20, ["\u0080\u0081\u0082\u0083\u0084\x0a\x17\x1b\u0088\u0089\u008a\u008b\u008c\x05\x06",
      "\x07\u0090\u0091\x16\u0093\u0094\u0095\u0096\x04\u0098\u0099\u009a\u009b\x14\x15",
      "\u009e\x1a \u00a0âäàáãåçñ¢.<(+|&éêëèíîïìß!$*);¬\x2d/ÂÄÀÁÃÅÇÑ¦,%_>?øÉÊËÈÍÎÏÌ\x60:#@",
      "\x27=\"Øabcdefghi«»ðýþ±°jklmnopqrªºæ¸Æ€µ~stuvwxyz¡¿ÐÝÞ®^£¥·©§¶¼½¾[]¯¨´×\x7bABCDEFG",
      "HI\u00adôöòóõ\x7dJKLMNOPQR¹ûüùúÿ\\÷STUVWXYZ²ÔÖÒÓÕ0123456789³ÛÜÙÚ\u009f"])]⟩,
  ⟨"cp1250", none, [],
   [(0x80, ["€�‚�„…†‡�‰Š‹ŚŤŽŹ�‘’“”•–—�™š›śťžź\u00a0ˇ˘Ł¤Ą"]),
    (0xAA, ["Ş"]),
    (0xAF, ["Ż°±˛ł"]),
    (0xB9, ["ąş»Ľ˝ľżŔÁÂĂÄĹĆÇČÉĘËĚÍÎĎĐŃŇÓÔŐÖ×ŘŮÚŰÜÝŢßŕáâăäĺćçčéęëěíîďđńňóôőö÷řůúűüýţ˙"])]⟩,
  ⟨"cp1251", some "Cyrillic", [],
   [(0x80, ["ЂЃ‚ѓ„…†‡€‰Љ‹ЊЌЋЏђ‘’“”•–—�™љ›њќћџ\u00a0ЎўЈ¤Ґ¦§Ё©Є"]),
    (0xAF, ["Ї°±Ііґ"]),
    (0xB8, ["ё№є»јЅѕїАБВГДЕЖЗИЙКЛМНОПРСТУФХЦЧШЩЪЫЬЭЮЯабвгдежзийклмнопрстуфхцчшщъыьэюя"])]⟩,
  ⟨"cp1252", none, [],
   [(0x80, ["€�‚ƒ„…†‡ˆ‰Š‹Œ�Ž��‘’“”•–—˜™š›œ�žŸ"])]⟩,
  ⟨"cp1253", some "Greek and Coptic", [],
   [(0x80, ["€�‚ƒ„…†‡�‰�‹�����‘’“”•–—�™�›����\u00a0΅Ά"]),
    (0xAA, ["�"]),
    (0xAF, ["―"]),
    (0xB4, ["΄"]),
    (0xB8, ["ΈΉΊ»Ό½ΎΏΐΑΒΓΔΕΖΗΘΙΚΛΜΝΞΟΠΡ�ΣΤΥΦΧΨΩΪΫάέήίΰαβγδεζηθικλμνξοπρςστυφχψωϊϋόύώ�"])]⟩,
  ⟨"cp1254", none, [],
   [(0x80, ["€�‚ƒ„…†‡ˆ‰Š‹Œ����‘’“”•–—˜™š›œ��Ÿ"]),
    (0xD0, ["Ğ"]),
    (0xDD, ["İŞ"]),
    (0xF0, ["ğ"]),
    (0xFD, ["ış"])]⟩,
  ⟨"cp1255", some "Hebrew", [],
   [(0x80, ["€�‚ƒ„…†‡ˆ‰�‹�����‘’“”•–—˜™�›����"]),
    (0xA4, ["₪"]),
    (0xAA, ["×"]),
    (0xBA, ["÷"]),
    (0xC0, ["\u05b0\u05b1\u05b2\u05b3\u05b4\u05b5\u05b6\u05b7\u05b8\u05b9�\u05bb\u05bc\u05bd",
      "\u05be\u05bf\u05c0\u05c1\u05c2\u05c3\u05f0\u05f1\u05f2\u05f3\u05f4�������\u05d0",
      "\u05d1\u05d2\u05d3\u05d4\u05d5\u05d6\u05d7\u05d8\u05d9\u05da\u05db\u05dc\u05dd",
      "\u05de\u05df\u05e0\u05e1\u05e2\u05e3\u05e4\u05e5\u05e6\u05e7\u05e8\u05e9\u05ea��",
      "\u200e\u200f�"])]⟩,
  ⟨"cp1256", some "Arabic", [],
   [(0x80, ["€\u067e‚ƒ„…†‡ˆ‰\u0679‹Œ\u0686\u0698\u0688\u06af‘’“”•–—\u06a9™\u0691›œ\u200c\u200d",
      "\u06ba\u00a0،"]),
    (0xAA, ["\u06be"]),
    (0xBA, ["\u061b"]),
    (0xBF, ["\u061f\u06c1\u0621\u0622\u0623\u0624\u0625\u0626\u0627\u0628\u0629\u062a\u062b",
      "\u062c\u062d\u062e\u062f\u0630\u0631\u0632\u0633\u0634\u0635\u0636×\u0637\u0638",
      "\u0639\u063a\u0640\u0641\u0642\u0643à\u0644â\u0645\u0646\u0647\u0648"]),
    (0xEC, ["\u0649\u064aîï\u064b\u064c\u064d\u064eô\u064f\u0650÷\u0651ù\u0652ûü\u200e\u200f",
      "\u06d2"])]⟩,
  ⟨"cp1257", none, [],
   [(0x80, ["€�‚�„…†‡�‰�‹�¨ˇ¸�‘’“”•–—�™�›�¯˛�\u00a0�"]),
    (0xA5, ["�¦§Ø©Ŗ"]),
    (0xAF, ["Æ"]),
    (0xB8, ["ø¹ŗ"]),
    (0xBF, ["æĄĮĀĆÄÅĘĒČÉŹĖĢĶĪĻŠŃŅÓŌ"]),
    (0xD8, ["ŲŁŚŪÜŻŽßąįāćäåęēčéźėģķīļšńņóō"]),
    (0xF8, ["ųłśūüżž˙"])]⟩,
  ⟨"cp1258", none, [],
   [(0x80, ["€�‚ƒ„…†‡ˆ‰�‹Œ����‘’“”•–—˜™�›œ��Ÿ"]),
    (0xC3, ["Ă"]),
    (0xCC, ["\u0300"]),
    (0xD0, ["ĐÑ\u0309ÓÔƠ"]),
    (0xDD, ["Ư\u0303"]),
    (0xE3, ["ă"]),
    (0xEC, ["\u0301"]),
    (0xF0, ["đñ\u0323óôơ"]),
    (0xFD, ["ư₫"])]⟩,
  ⟨"cp273", none, ["cp037", "cp1026", "cp1140"],
   [(0x4, ["\u009c\x09\u0086\x7f\u0097\u008d\u008e"]),
    (0x14, ["\u009d\u0085\x08\u0087\x18\x19\u0092\u008f"]),
    (0x20, ["\u0080\u0081\u0082\u0083\u0084\x0a\x17\x1b\u0088\u0089\u008a\u008b\u008c\x05\x06",
      "\x07\u0090\u0091\x16\u0093\u0094\u0095\u0096\x04\u0098\u0099\u009a\u009b\x14\x15",
      "\u009e\x1a \u00a0â\x7bàáãåçñÄ.<(+!&éêëèíîïì~Ü$*);^\x2d/Â[ÀÁÃÅÇÑö,%_>?øÉÊËÈÍÎÏÌ\x60",
      ":#§\x27=\"Øabcdefghi«»ðýþ±°jklmnopqrªºæ¸Æ¤µßstuvwxyz¡¿ÐÝÞ®¢£¥·©@¶¼½¾¬|‾¨´×äABCDEFG",
      "HI\u00adô¦òóõüJKLMNOPQR¹û\x7dùúÿÖ÷STUVWXYZ²Ô\\ÒÓÕ0123456789³Û]ÙÚ\u009f"])]⟩,
  ⟨"cp424", some "Hebrew", [],
   [(0x4, ["\u009c\x09\u0086\x7f\u0097\u008d\u008e"]),
    (0x14, ["\u009d\u0085\x08\u0087\x18\x19\u0092\u008f"]),
    (0x20, ["\u0080\u0081\u0082\u0083\u0084\x0a\x17\x1b\u0088\u0089\u008a\u008b\u008c\x05\x06",
      "\x07\u0090\u0091\x16\u0093\u0094\u0095\u0096\x04\u0098\u0099\u009a\u009b\x14\x15",
      "\u009e\x1a \u05d0\u05d1\u05d2\u05d3\u05d4\u05d5\u05d6\u05d7\u05d8¢.<(+|&\u05d9",
      "\u05da\u05db\u05dc\u05dd\u05de\u05df\u05e0\u05e1!$*);¬\x2d/\u05e2\u05e3\u05e4",
      "\u05e5\u05e6\u05e7\u05e8\u05e9¦,%_>?�\u05ea��\u00a0���‗\x60:#@\x27=\"�abcdefghi«»�",
      "��±°jklmnopqr���¸�¤µ~stuvwxyz�����®^£¥·©§¶¼½¾[]¯¨´×\x7bABCDEFGHI\u00ad�����\x7dJKL",
      "MNOPQR¹�����\\÷STUVWXYZ²�����0123456789³����\u009f"])]⟩,
  ⟨"cp437", some "Greek and Coptic", [],
   [(0x80, ["ÇüéâäàåçêëèïîìÄÅÉæÆôöòûùÿÖÜ¢£¥₧ƒáíóúñÑªº¿⌐¬½¼¡«»░▒▓│┤╡╢╖╕╣║╗╝╜╛┐└┴┬├─┼╞╟╚╔╩╦╠═╬╧╨╤",
      "╥╙╘╒╓╫╪┘┌█▄▌▐▀αßΓπΣσµτΦΘΩδ∞φε∩≡±≥≤⌠⌡÷≈°∙·√ⁿ²■\u00a0"])]⟩,
  ⟨"cp500", none, ["cp037", "cp1026", "cp1140", "cp273"],
   [(0x4, ["\u009c\x09\u0086\x7f\u0097\u008d\u008e"]),
    (0x14, ["\u009d\u0085\x08\u0087\x18\x19\u0092\u008f"]),
    (0x20, ["\u0080\u0081\u0082\u0083\u0084\x0a\x17\x1b\u0088\u0089\u008a\u008b\u008c\x05\x06",
      "\x07\u0090\u0091\x16\u0093\u0094\u0095\u0096\x04\u0098\u0099\u009a\u009b\x14\x15",
      "\u009e\x1a \u00a0âäàáãåçñ[.<(+!&éêëèíîïìß]$*);^\x2d/ÂÄÀÁÃÅÇÑ¦,%_>?øÉÊËÈÍÎÏÌ\x60:#@",
      "\x27=\"Øabcdefghi«»ðýþ±°jklmnopqrªºæ¸Æ¤µ~stuvwxyz¡¿ÐÝÞ®¢£¥·©§¶¼½¾¬|¯¨´×\x7bABCDEFG",
      "HI\u00adôöòóõ\x7dJKLMNOPQR¹ûüùúÿ\\÷STUVWXYZ²ÔÖÒÓÕ0123456789³ÛÜÙÚ\u009f"])]⟩,
  ⟨"cp720", some "Arabic", [],
   [(0x82, ["éâ\u0084à\u0086çêëèïî"]),
    (0x91, ["\u0651\u0652ô¤\u0640ûù\u0621\u0622\u0623\u0624£\u0625\u0626\u0627\u0628\u0629",
      "\u062a\u062b\u062c\u062d\u062e\u062f\u0630\u0631\u0632\u0633\u0634\u0635«»░▒▓│┤╡╢╖",
      "╕╣║╗╝╜╛┐└┴┬├─┼╞╟╚╔╩╦╠═╬╧╨╤╥╙╘╒╓╫╪┘┌█▄▌▐▀\u0636\u0637\u0638\u0639\u063a\u0641µ",
      "\u0642\u0643\u0644\u0645\u0646\u0647\u0648\u0649\u064a≡\u064b\u064c\u064d\u064e",
      "\u064f\u0650≈°∙·√ⁿ²■\u00a0"])]⟩,
  ⟨"cp737", some "Greek and Coptic", [],
   [(0x80, ["ΑΒΓΔΕΖΗΘΙΚΛΜΝΞΟΠΡΣΤΥΦΧΨΩαβγδεζηθικλμνξοπρσςτυφχψ░▒▓│┤╡╢╖╕╣║╗╝╜╛┐└┴┬├─┼╞╟╚╔╩╦╠═╬╧╨╤",
      "╥╙╘╒╓╫╪┘┌█▄▌▐▀ωάέήϊίόύϋώΆΈΉΊΌΎΏ±≥≤ΪΫ÷≈°∙·√ⁿ²■\u00a0"])]⟩,
  ⟨"cp775", none, [],
   [(0x80, ["ĆüéāäģåćłēŖŗīŹÄÅÉæÆōöĢ¢ŚśÖÜø£Ø×¤ĀĪóŻżź”¦©®¬½¼Ł«»░▒▓│┤ĄČĘĖ╣║╗╝ĮŠ┐└┴┬├─┼ŲŪ╚╔╩╦╠═╬Žąč",
      "ęėįšųūž┘┌█▄▌▐▀ÓßŌŃõÕµńĶķĻļņĒŅ’\u00ad±“¾¶§÷„°∙·¹³²■\u00a0"])]⟩,
  ⟨"cp850", none, ["cp437"],
   [(0x80, ["ÇüéâäàåçêëèïîìÄÅÉæÆôöòûùÿÖÜø£Ø×ƒáíóúñÑªº¿®¬½¼¡«»░▒▓│┤ÁÂÀ©╣║╗╝¢¥┐└┴┬├─┼ãÃ╚╔╩╦╠═╬¤ðÐ",
      "ÊËÈıÍÎÏ┘┌█▄¦Ì▀ÓßÔÒõÕµþÞÚÛÙýÝ¯´\u00ad±‗¾¶§÷¸°¨·¹³²■\u00a0"])]⟩,
  ⟨"cp852", none, [],
   [(0x80, ["ÇüéâäůćçłëŐőîŹÄĆÉĹĺôöĽľŚśÖÜŤťŁ×čáíóúĄąŽžĘę¬źČş«»░▒▓│┤ÁÂĚŞ╣║╗╝Żż┐└┴┬├─┼Ăă╚╔╩╦╠═╬¤đĐ",
      "ĎËďŇÍÎě┘┌█▄ŢŮ▀ÓßÔŃńňŠšŔÚŕŰýÝţ´\u00ad˝˛ˇ˘§÷¸°¨˙űŘř■\u00a0"])]⟩,
  ⟨"cp855", some "Cyrillic", [],
   [(0x80, ["ђЂѓЃёЁєЄѕЅіІїЇјЈљЉњЊћЋќЌўЎџЏюЮъЪаАбБцЦдДеЕфФгГ«»░▒▓│┤хХиИ╣║╗╝йЙ┐└┴┬├─┼кК╚╔╩╦╠═╬¤лЛ",
      "мМнНоОп┘┌█▄Пя▀ЯрРсСтТуУжЖвВьЬ№\u00adыЫзЗшШэЭщЩчЧ§■\u00a0"])]⟩,
  ⟨"cp856", some "Hebrew", [],
   [(0x80, ["\u05d0\u05d1\u05d2\u05d3\u05d4\u05d5\u05d6\u05d7\u05d8\u05d9\u05da\u05db\u05dc",
      "\u05dd\u05de\u05df\u05e0\u05e1\u05e2\u05e3\u05e4\u05e5\u05e6\u05e7\u05e8\u05e9",
      "\u05ea�£�×����������®¬½¼�«»░▒▓│┤���©╣║╗╝¢¥┐└┴┬├─┼��╚╔╩╦╠═╬¤���������┘┌█▄¦�▀������µ",
      "�������¯´\u00ad±‗¾¶§÷¸°¨·¹³²■\u00a0"])]⟩,
  ⟨"cp857", none, ["cp850"],
   [(0x80, ["ÇüéâäàåçêëèïîıÄÅÉæÆôöòûùİÖÜø£ØŞşáíóúñÑĞğ¿®¬½¼¡«»░▒▓│┤ÁÂÀ©╣║╗╝¢¥┐└┴┬├─┼ãÃ╚╔╩╦╠═╬¤ºª",
      "ÊËÈ�ÍÎÏ┘┌█▄¦Ì▀ÓßÔÒõÕµ�×ÚÛÙìÿ¯´\u00ad±�¾¶§÷¸°¨·¹³²■\u00a0"])]⟩,
  ⟨"cp858", none, ["cp437", "cp850", "cp857"],
   [(0x80, ["ÇüéâäàåçêëèïîìÄÅÉæÆôöòûùÿÖÜø£Ø×ƒáíóúñÑªº¿®¬½¼¡«»░▒▓│┤ÁÂÀ©╣║╗╝¢¥┐└┴┬├─┼ãÃ╚╔╩╦╠═╬¤ðÐ",
      "ÊËÈ€ÍÎÏ┘┌█▄¦Ì▀ÓßÔÒõÕµþÞÚÛÙýÝ¯´\u00ad±‗¾¶§÷¸°¨·¹³²■\u00a0"])]⟩,
  ⟨"cp860", some "Greek and Coptic", ["cp437"],
   [(0x80, ["ÇüéâãàÁçêÊèÍÔìÃÂÉÀÈôõòÚùÌÕÜ¢£Ù₧ÓáíóúñÑªº¿Ò¬½¼¡«»░▒▓│┤╡╢╖╕╣║╗╝╜╛┐└┴┬├─┼╞╟╚╔╩╦╠═╬╧╨╤",
      "╥╙╘╒╓╫╪┘┌█▄▌▐▀αßΓπΣσµτΦΘΩδ∞φε∩≡±≥≤⌠⌡÷≈°∙·√ⁿ²■\u00a0"])]⟩,
  ⟨"cp861", some "Greek and Coptic", ["cp437", "cp860"],
   [(0x80, ["ÇüéâäàåçêëèÐðÞÄÅÉæÆôöþûÝýÖÜø£Ø₧ƒáíóúÁÍÓÚ¿⌐¬½¼¡«»░▒▓│┤╡╢╖╕╣║╗╝╜╛┐└┴┬├─┼╞╟╚╔╩╦╠═╬╧╨╤",
      "╥╙╘╒╓╫╪┘┌█▄▌▐▀αßΓπΣσµτΦΘΩδ∞φε∩≡±≥≤⌠⌡÷≈°∙·√ⁿ²■\u00a0"])]⟩,
  ⟨"cp862", some "Hebrew", ["cp437", "cp860", "cp861"],
   [(0x80, ["\u05d0\u05d1\u05d2\u05d3\u05d4\u05d5\u05d6\u05d7\u05d8\u05d9\u05da\u05db\u05dc",
      "\u05dd\u05de\u05df\u05e0\u05e1\u05e2\u05e3\u05e4\u05e5\u05e6\u05e7\u05e8\u05e9",
      "\u05ea¢£¥₧ƒáíóúñÑªº¿⌐¬½¼¡«»░▒▓│┤╡╢╖╕╣║╗╝╜╛┐└┴┬├─┼╞╟╚╔╩╦╠═╬╧╨╤╥╙╘╒╓╫╪┘┌█▄▌▐▀αßΓπΣσµ",
      "τΦΘΩδ∞φε∩≡±≥≤⌠⌡÷≈°∙·√ⁿ²■\u00a0"])]⟩,
  ⟨"cp863", some "Greek and Coptic", ["cp437", "cp860", "cp861", "cp862"],
   [(0x80, ["ÇüéâÂà¶çêëèïî‗À§ÉÈÊôËÏûù¤ÔÜ¢£ÙÛƒ¦´óú¨¸³¯Î⌐¬½¼¾«»░▒▓│┤╡╢╖╕╣║╗╝╜╛┐└┴┬├─┼╞╟╚╔╩╦╠═╬╧╨╤",
      "╥╙╘╒╓╫╪┘┌█▄▌▐▀αßΓπΣσµτΦΘΩδ∞φε∩≡±≥≤⌠⌡÷≈°∙·√ⁿ²■\u00a0"])]⟩,
  ⟨"cp864", some "Arabic", [],
   [(0x25, ["٪"]),
    (0x80, ["°·∙√▒─│┼┤┬├┴┐┌└┘β∞φ±½¼≈«»\ufef7\ufef8��\ufefb\ufefc�\u00a0\u00ad\ufe82£¤\ufe84��",
      "\ufe8e\ufe8f\ufe95\ufe99،\ufe9d\ufea1\ufea5\u0660\u0661\u0662\u0663\u0664\u0665",
      "\u0666\u0667\u0668\u0669\ufed1\u061b\ufeb1\ufeb5\ufeb9\u061f¢\ufe80\ufe81\ufe83",
      "\ufe85\ufeca\ufe8b\ufe8d\ufe91\ufe93\ufe97\ufe9b\ufe9f\ufea3\ufea7\ufea9\ufeab",
      "\ufead\ufeaf\ufeb3\ufeb7\ufebb\ufebf\ufec1\ufec5\ufecb\ufecf¦¬÷×\ufec9\u0640\ufed3",
      "\ufed7\ufedb\ufedf\ufee3\ufee7\ufeeb\ufeed\ufeef\ufef3\ufebd\ufecc\ufece\ufecd",
      "\ufee1\ufe7d\u0651\ufee5\ufee9\ufeec\ufef0\ufef2\ufed0\ufed5\ufef5\ufef6\ufedd",
      "\ufed9\ufef1■�"])]⟩,
  ⟨"cp865", some "Greek and Coptic", ["cp437", "cp850", "cp857", "cp858", "cp860",
    "cp861", "cp862", "cp863"],
   [(0x80, ["ÇüéâäàåçêëèïîìÄÅÉæÆôöòûùÿÖÜø£Ø₧ƒáíóúñÑªº¿⌐¬½¼¡«¤░▒▓│┤╡╢╖╕╣║╗╝╜╛┐└┴┬├─┼╞╟╚╔╩╦╠═╬╧╨╤",
      "╥╙╘╒╓╫╪┘┌█▄▌▐▀αßΓπΣσµτΦΘΩδ∞φε∩≡±≥≤⌠⌡÷≈°∙·√ⁿ²■\u00a0"])]⟩,
  ⟨"cp866", some "Cyrillic", ["cp1125"],
   [(0x80, ["АБВГДЕЖЗИЙКЛМНОПРСТУФХЦЧШЩЪЫЬЭЮЯабвгдежзийклмноп░▒▓│┤╡╢╖╕╣║╗╝╜╛┐└┴┬├─┼╞╟╚╔╩╦╠═╬╧╨╤",
      "╥╙╘╒╓╫╪┘┌█▄▌▐▀рстуфхцчшщъыьэюяЁёЄєЇїЎў°∙·√№¤■\u00a0"])]⟩,
  ⟨"cp869", some "Greek and Coptic", [],
   [(0x80, ["������Ά�·¬¦‘’Έ―ΉΊΪΌ��ΎΫ©Ώ²³ά£έήίϊΐόύΑΒΓΔΕΖΗ½ΘΙ«»░▒▓│┤ΚΛΜΝ╣║╗╝ΞΟ┐└┴┬├─┼ΠΡ╚╔╩╦╠═╬ΣΤΥ",
      "ΦΧΨΩαβγ┘┌█▄δε▀ζηθικλμνξοπρσςτ΄\u00ad±υφχ§ψ΅°¨ωϋΰώ■\u00a0"])]⟩,
  ⟨"cp874", some "Thai", [],
   [(0x80, ["€����…�����������‘’“”•–—��������\u00a0กขฃคฅฆงจฉชซฌญฎฏฐฑฒณดตถทธนบปผฝพฟภมยรฤลฦวศษสหฬ",
      "อฮฯะ\u0e31าำ\u0e34\u0e35\u0e36\u0e37\u0e38\u0e39\u0e3a����฿เแโใไๅๆ\u0e47\u0e48",
      "\u0e49\u0e4a\u0e4b\u0e4c\u0e4d\u0e4e๏๐๑๒๓๔๕๖๗๘๙๚๛����"])]⟩,
  ⟨"cp875", some "Greek and Coptic", [],
   [(0x4, ["\u009c\x09\u0086\x7f\u0097\u008d\u008e"]),
    (0x14, ["\u009d\u0085\x08\u0087\x18\x19\u0092\u008f"]),
    (0x20, ["\u0080\u0081\u0082\u0083\u0084\x0a\x17\x1b\u0088\u0089\u008a\u008b\u008c\x05\x06",
      "\x07\u0090\u0091\x16\u0093\u0094\u0095\u0096\x04\u0098\u0099\u009a\u009b\x14\x15",
      "\u009e\x1a ΑΒΓΔΕΖΗΘΙ[.<(+!&ΚΛΜΝΞΟΠΡΣ]$*);^\x2d/ΤΥΦΧΨΩΪΫ|,%_>?¨ΆΈΉ\u00a0ΊΌΎΏ\x60:#@",
      "\x27=\"΅abcdefghiαβγδεζ°jklmnopqrηθικλμ´~stuvwxyzνξοπρσ£άέήϊίόύϋώςτυφχψ\x7bABCDEFG",
      "HI\u00adωΐΰ‘―\x7dJKLMNOPQR±½\x1a·’¦\\\x1aSTUVWXYZ²§\x1a\x1a«¬0123456789³©\x1a\x1a»",
      "\u009f"])]⟩,
  ⟨"hp-roman8", none, [],
   [(0xA1, ["ÀÂÈÊËÎÏ´ˋˆ¨˜ÙÛ₤¯Ýý°ÇçÑñ¡¿¤£¥§ƒ¢âêôûáéóúàèòùäëöüÅîØÆåíøæÄìÖÜÉïßÔÁÃãÐðÍÌÓÒÕõŠšÚŸÿÞþ·",
      "µ¶¾—¼½ªº«■»±�"])]⟩,
  ⟨"iso8859-10", none, [],
   [(0xA1, ["ĄĒĢĪĨĶ§ĻĐŠŦŽ\u00adŪŊ°ąēģīĩķ·ļđšŧž―ūŋĀ"]),
    (0xC7, ["ĮČÉĘËĖ"]),
    (0xD1, ["ŅŌ"]),
    (0xD7, ["ŨØŲ"]),
    (0xE0, ["ā"]),
    (0xE7, ["įčéęëė"]),
    (0xF1, ["ņō"]),
    (0xF7, ["ũøų"]),
    (0xFF, ["ĸ"])]⟩,
  ⟨"iso8859-11", some "Thai", [],
   [(0xA1, ["กขฃคฅฆงจฉชซฌญฎฏฐฑฒณดตถทธนบปผฝพฟภมยรฤลฦวศษสหฬอฮฯะ\u0e31าำ\u0e34\u0e35\u0e36\u0e37",
      "\u0e38\u0e39\u0e3a����฿เแโใไๅๆ\u0e47\u0e48\u0e49\u0e4a\u0e4b\u0e4c\u0e4d\u0e4e๏๐๑๒",
      "๓๔๕๖๗๘๙๚๛����"])]⟩,
  ⟨"iso8859-13", none, ["cp1257"],
   [(0xA1, ["”"]),
    (0xA5, ["„¦§Ø©Ŗ"]),
    (0xAF, ["Æ"]),
    (0xB4, ["“"]),
    (0xB8, ["ø¹ŗ"]),
    (0xBF, ["æĄĮĀĆÄÅĘĒČÉŹĖĢĶĪĻŠŃŅÓŌ"]),
    (0xD8, ["ŲŁŚŪÜŻŽßąįāćäåęēčéźėģķīļšńņóō"]),
    (0xF8, ["ųłśūüżž’"])]⟩,
  ⟨"iso8859-14", none, ["iso8859-10"],
   [(0xA1, ["Ḃḃ£ĊċḊ§Ẁ©ẂḋỲ\u00ad®ŸḞḟĠġṀṁ¶ṖẁṗẃṠỳẄẅṡ"]),
    (0xD0, ["Ŵ"]),
    (0xD7, ["Ṫ"]),
    (0xDE, ["Ŷ"]),
    (0xF0, ["ŵ"]),
    (0xF7, ["ṫ"]),
    (0xFE, ["ŷ"])]⟩,
  ⟨"iso8859-15", none, ["cp1252", "cp1254", "iso8859-10", "iso8859-14"],
   [(0xA4, ["€¥Š§š"]),
    (0xB4, ["Ž"]),
    (0xB8, ["ž"]),
    (0xBC, ["ŒœŸ"])]⟩,
  ⟨"iso8859-16", none, ["iso8859-14", "iso8859-15"],
   [(0xA1, ["ĄąŁ€„Š§š©Ș«Ź\u00adźŻ°±ČłŽ”¶·žčș»ŒœŸż"]),
    (0xC3, ["ĂÄĆ"]),
    (0xD0, ["ĐŃ"]),
    (0xD5, ["ŐÖŚŰ"]),
    (0xDD, ["ĘȚ"]),
    (0xE3, ["ăäć"]),
    (0xF0, ["đń"]),
    (0xF5, ["őöśű"]),
    (0xFD, ["ęț"])]⟩,
  ⟨"iso8859-2", none, ["cp1250", "iso8859-16"],
   [(0xA1, ["Ą˘Ł¤ĽŚ§¨ŠŞŤŹ\u00adŽŻ°ą˛ł´ľśˇ¸šşťź˝žżŔÁÂĂÄĹĆÇČÉĘËĚÍÎĎĐŃŇÓÔŐÖ×ŘŮÚŰÜÝŢßŕáâăäĺćçčéęëěí",
      "îďđńňóôőö÷řůúűüýţ˙"])]⟩,
  ⟨"iso8859-3", none, ["iso8859-14", "iso8859-15", "iso8859-16"],
   [(0xA1, ["Ħ˘£¤�Ĥ§¨İŞĞĴ\u00ad�Ż°ħ"]),
    (0xB6, ["ĥ·¸ışğĵ½�ż"]),
    (0xC3, ["�ÄĊĈ"]),
    (0xD0, ["�"]),
    (0xD5, ["ĠÖ×Ĝ"]),
    (0xDD, ["ŬŜ"]),
    (0xE3, ["�äċĉ"]),
    (0xF0, ["�"]),
    (0xF5, ["ġö÷ĝ"]),
    (0xFD, ["ŭŝ˙"])]⟩,
  ⟨"iso8859-4", none, ["iso8859-10", "iso8859-2"],
   [(0xA1, ["ĄĸŖ¤ĨĻ§¨ŠĒĢŦ\u00adŽ¯°ą˛ŗ´ĩļˇ¸šēģŧŊžŋĀ"]),
    (0xC7, ["ĮČÉĘËĖÍÎĪĐŅŌĶ"]),
    (0xD9, ["Ų"]),
    (0xDD, ["ŨŪßā"]),
    (0xE7, ["įčéęëėíîīđņōķ"]),
    (0xF9, ["ų"]),
    (0xFD, ["ũū˙"])]⟩,
  ⟨"iso8859-5", some "Cyrillic", [],
   [(0xA1, ["ЁЂЃЄЅІЇЈЉЊЋЌ\u00adЎЏАБВГДЕЖЗИЙКЛМНОПРСТУФХЦЧШЩЪЫЬЭЮЯабвгдежзийклмнопрстуфхцчшщъыьэ",
      "юя№ёђѓєѕіїјљњћќ§ўџ"])]⟩,
  ⟨"iso8859-6", some "Arabic", [],
   [(0xA1, ["���¤�������،\u00ad�������������\u061b���\u061f�\u0621\u0622\u0623\u0624\u0625",
      "\u0626\u0627\u0628\u0629\u062a\u062b\u062c\u062d\u062e\u062f\u0630\u0631\u0632",
      "\u0633\u0634\u0635\u0636\u0637\u0638\u0639\u063a�����\u0640\u0641\u0642\u0643",
      "\u0644\u0645\u0646\u0647\u0648\u0649\u064a\u064b\u064c\u064d\u064e\u064f\u0650",
      "\u0651\u0652�������������"])]⟩,
  ⟨"iso8859-7", some "Greek and Coptic", ["cp1253"],
   [(0xA1, ["‘’£€₯"]),
    (0xAA, ["ͺ"]),
    (0xAE, ["�―"]),
    (0xB4, ["΄΅Ά·ΈΉΊ»Ό½ΎΏΐΑΒΓΔΕΖΗΘΙΚΛΜΝΞΟΠΡ�ΣΤΥΦΧΨΩΪΫάέήίΰαβγδεζηθικλμνξοπρςστυφχψωϊϋόύώ�"])]⟩,
  ⟨"iso8859-8", some "Hebrew", [],
   [(0xA1, ["�"]),
    (0xAA, ["×"]),
    (0xBA, ["÷"]),
    (0xBF, ["��������������������������������‗\u05d0\u05d1\u05d2\u05d3\u05d4\u05d5\u05d6\u05d7",
      "\u05d8\u05d9\u05da\u05db\u05dc\u05dd\u05de\u05df\u05e0\u05e1\u05e2\u05e3\u05e4",
      "\u05e5\u05e6\u05e7\u05e8\u05e9\u05ea��\u200e\u200f�"])]⟩,
  ⟨"iso8859-9", none, ["cp1252", "cp1254", "cp1258", "iso8859-10", "iso8859-14",
    "iso8859-15", "iso8859-16", "iso8859-3", "iso8859-4"],
   [(0xD0, ["Ğ"]),
    (0xDD, ["İŞ"]),
    (0xF0, ["ğ"]),
    (0xFD, ["ış"])]⟩,
  ⟨"koi8-r", some "Cyrillic", [],
   [(0x80, ["─│┌┐└┘├┤┬┴┼▀▄█▌▐░▒▓⌠■∙√≈≤≥\u00a0⌡°²·÷═║╒ё╓╔╕╖╗╘╙╚╛╜╝╞╟╠╡Ё╢╣╤╥╦╧╨╩╪╫╬©юабцдефгхийкл",
      "мнопярстужвьызшэщчъЮАБЦДЕФГХИЙКЛМНОПЯРСТУЖВЬЫЗШЭЩЧЪ"])]⟩,
  ⟨"koi8-t", some "Cyrillic", [],
   [(0x80, ["қғ‚Ғ„…†‡�‰ҳ‹ҲҷҶ�Қ‘’“”•–—�™�›�����ӯӮё¤ӣ¦§���"]),
    (0xAF, ["�"]),
    (0xB3, ["Ё�Ӣ¶·�№�»���©юабцдефгхийклмнопярстужвьызшэщчъЮАБЦДЕФГХИЙКЛМНОПЯРСТУЖВЬЫЗШЭЩЧЪ"])]⟩,
  ⟨"koi8-u", some "Cyrillic", [],
   [(0x80, ["─│┌┐└┘├┤┬┴┼▀▄█▌▐░▒▓⌠■∙√≈≤≥\u00a0⌡°²·÷═║╒ёє╔ії╗╘╙╚╛ґ╝╞╟╠╡ЁЄ╣ІЇ╦╧╨╩╪Ґ╬©юабцдефгхийкл",
      "мнопярстужвьызшэщчъЮАБЦДЕФГХИЙКЛМНОПЯРСТУЖВЬЫЗШЭЩЧЪ"])]⟩,
  ⟨"kz1048", some "Cyrillic", ["cp1251"],
   [(0x80, ["ЂЃ‚ѓ„…†‡€‰Љ‹ЊҚҺЏђ‘’“”•–—�™љ›њқһџ\u00a0ҰұӘ¤Ө¦§Ё©Ғ"]),
    (0xAF, ["Ү°±Ііө"]),
    (0xB8, ["ё№ғ»әҢңүАБВГДЕЖЗИЙКЛМНОПРСТУФХЦЧШЩЪЫЬЭЮЯабвгдежзийклмнопрстуфхцчшщъыьэюя"])]⟩,
  ⟨"latin-1", none, ["cp1252", "cp1254", "cp1258", "iso8859-10", "iso8859-14",
    "iso8859-15", "iso8859-16", "iso8859-3", "iso8859-4", "iso8859-9"],
   []⟩,
  ⟨"mac-cyrillic", some "Cyrillic", [],
   [(0x80, ["АБВГДЕЖЗИЙКЛМНОПРСТУФХЦЧШЩЪЫЬЭЮЯ†°Ґ£§•¶І®©™Ђђ≠Ѓѓ∞±≤≥іµґЈЄєЇїЉљЊњјЅ¬√ƒ≈∆«»…\u00a0Ћћ",
      "Ќќѕ–—“”‘’÷„ЎўЏџ№Ёёяабвгдежзийклмнопрстуфхцчшщъыьэю€"])]⟩,
  ⟨"mac-greek", some "Greek and Coptic", [],
   [(0x80, ["Ä¹²É³ÖÜ΅àâä΄¨çéèêë£™îï•½‰ôö¦€ùûü†ΓΔΘΛΞΠß®©ΣΪ§≠°·Α±≤≥¥ΒΕΖΗΙΚΜΦΫΨΩάΝ¬ΟΡ≈Τ«»…\u00a0ΥΧ",
      "ΆΈœ–―“”‘’÷ΉΊΌΎέήίόΏύαβψδεφγηιξκλμνοπώρστθωςχυζϊϋΐΰ\u00ad"])]⟩,
  ⟨"mac-iceland", none, [],
   [(0x80, ["ÄÅÇÉÑÖÜáàâäãåçéèêëíìîïñóòôöõúùûüÝ°¢£§•¶ß®©™´¨≠ÆØ∞±≤≥¥µ∂∑∏π∫ªºΩæø¿¡¬√ƒ≈∆«»…\u00a0ÀÃ",
      "ÕŒœ–—“”‘’÷◊ÿŸ⁄€ÐðÞþý·‚„‰ÂÊÁËÈÍÎÏÌÓÔ\uf8ffÒÚÛÙıˆ˜¯˘˙˚¸˝˛ˇ"])]⟩,
  ⟨"mac-latin2", none, [],
   [(0x80, ["ÄĀāÉĄÖÜáąČäčĆćéŹźĎíďĒēĖóėôöõúĚěü†°Ę£§•¶ß®©™ę¨≠ģĮįĪ≤≥īĶ∂∑łĻļĽľĹĺŅņŃ¬√ńŇ∆«»…\u00a0ňŐ",
      "ÕőŌ–—“”‘’÷◊ōŔŕŘ‹›řŖŗŠ‚„šŚśÁŤťÍŽžŪÓÔūŮÚůŰűŲųÝýķŻŁżĢˇ"])]⟩,
  ⟨"mac-roman", none, ["mac-iceland"],
   [(0x80, ["ÄÅÇÉÑÖÜáàâäãåçéèêëíìîïñóòôöõúùûü†°¢£§•¶ß®©™´¨≠ÆØ∞±≤≥¥µ∂∑∏π∫ªºΩæø¿¡¬√ƒ≈∆«»…\u00a0ÀÃ",
      "ÕŒœ–—“”‘’÷◊ÿŸ⁄€‹›ﬁﬂ‡·‚„‰ÂÊÁËÈÍÎÏÌÓÔ\uf8ffÒÚÛÙıˆ˜¯˘˙˚¸˝˛ˇ"])]⟩,
  ⟨"mac-turkish", none, ["mac-iceland", "mac-roman"],
   [(0x80, ["ÄÅÇÉÑÖÜáàâäãåçéèêëíìîïñóòôöõúùûü†°¢£§•¶ß®©™´¨≠ÆØ∞±≤≥¥µ∂∑∏π∫ªºΩæø¿¡¬√ƒ≈∆«»…\u00a0ÀÃ",
      "ÕŒœ–—“”‘’÷◊ÿŸĞğİıŞş‡·‚„‰ÂÊÁËÈÍÎÏÌÓÔ\uf8ffÒÚÛÙ\uf8a0ˆ˜¯˘˙˚¸˝˛ˇ"])]⟩,
  ⟨"ptcp154", some "Cyrillic", ["cp1251", "kz1048"],
   [(0x80, ["ҖҒӮғ„…ҶҮҲүҠӢҢҚҺҸҗ‘’“”•–—ҳҷҡӣңқһҹ\u00a0ЎўЈӨҘҰ§Ё©Ә«¬ӯ®Ҝ°ұІіҙө¶·ё№ә»јҪҫҝАБВГДЕЖЗИЙКЛМ",
      "НОПРСТУФХЦЧШЩЪЫЬЭЮЯабвгдежзийклмнопрстуфхцчшщъыьэюя"])]⟩,
  ⟨"tis-620", some "Thai", ["iso8859-11"],
   [(0xA0, ["�กขฃคฅฆงจฉชซฌญฎฏฐฑฒณดตถทธนบปผฝพฟภมยรฤลฦวศษสหฬอฮฯะ\u0e31าำ\u0e34\u0e35\u0e36\u0e37",
      "\u0e38\u0e39\u0e3a����฿เแโใไๅๆ\u0e47\u0e48\u0e49\u0e4a\u0e4b\u0e4c\u0e4d\u0e4e๏๐๑๒",
      "๓๔๕๖๗๘๙๚๛����"])]⟩]

end ResourceSymbols.Charset
