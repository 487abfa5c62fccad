import DocBuild.Text.Charset.Grid

/-!
# The extended Chinese characters

The characters that GBK and GB 18030 add to GB 2312, by leading and trailing octet, but for the ideographs
that are listed in the order of their numbers.
-/

namespace DocBuild.Gb

/-- Cells of GB 2312 with another character in GBK. -/
def replaced : List (Nat × Nat × Char) :=
  [(0xA1, 0xA4, '·'), (0xA1, 0xAA, '—')]

/-- Characters of GBK besides ideographs. -/
def added : List Grid :=
  [⟨162, 161, #[
    "ⅰⅱⅲⅳⅴⅵⅶⅷⅸⅹ"]⟩,
   ⟨166, 224, #[
    "︵︶︹︺︿﹀︽︾﹁﹂﹃﹄��︻︼︷︸︱�︳︴"]⟩,
   ⟨168, 64, #[
    "ˊˋ˙–―‥‵℅℉↖↗↘↙∕∟∣≒≦≧⊿═║╒╓╔╕╖╗╘╙╚╛╜╝╞╟╠╡╢╣╤╥╦╧╨╩╪╫╬╭╮╯╰╱╲╳▁▂▃▄▅▆▇�█▉▊▋▌▍▎▏▓▔▕▼▽◢◣◤◥☉⊕〒〝〞",
    "〡〢〣〤〥〦〧〨〩㊣㎎㎏㎜㎝㎞㎡㏄㏎㏑㏒㏕︰￢￤�℡㈱�‐���ー゛゜ヽヾ〆ゝゞ﹉﹊﹋﹌﹍﹎﹏﹐﹑﹒﹔﹕﹖﹗﹙﹚﹛﹜﹝﹞﹟﹠﹡�﹢﹣﹤﹥﹦﹨﹩﹪﹫�������������〇"]⟩,
   ⟨168, 187, #[
    "ɑ�ńň�ɡ"]⟩,
   ⟨253, 64, #[
    "��������������������������������������������������������������������������������������������郎凉" ++
      "秊裏隣",
    "兀嗀﨎﨏﨑﨓﨔礼﨟蘒﨡﨣﨤﨧﨨﨩"]⟩]

/-- Characters of GB 18030 that GBK lacks. -/
def addedLater : List Grid :=
  [⟨162, 171, #[
    "\ue766\ue767\ue768\ue769\ue76a\ue76b��������������������������������������������������€\ue76d�" ++
      "���������\ue76e\ue76f������������\ue770\ue771"]⟩,
   ⟨168, 88, #[
    "��������������������������������������������������������������\ue7bc\ue7bd\ue7be\ue7bf\ue7c0" ++
      "\ue7c1\ue7c2\ue7c3\ue7c4\ue7c5\ue7c6",
    "\ue7e2��\ue7e3�\ue7e4\ue7e5\ue7e6�����������������������������������������〾⿰⿱⿲⿳⿴⿵⿶⿷⿸⿹⿺⿻�\ue7f4" ++
      "\ue7f5\ue7f6\ue7f7\ue7f8\ue7f9\ue7fa\ue7fb\ue7fc\ue7fd"]⟩,
   ⟨164, 161, #[
    "�����������������������������������������������������������������������������������\ue772" ++
      "\ue773\ue774\ue775\ue776\ue777\ue778\ue779\ue77a\ue77b\ue77c",
    "��������������������������������������������������������������������������������������\ue77d" ++
      "\ue77e\ue77f\ue780\ue781\ue782\ue783\ue784",
    "������������������������\ue785\ue786\ue787\ue788\ue789\ue78a\ue78b\ue78c����������������������" ++
      "��\ue78d\ue78e\ue78f\ue790\ue791\ue792\ue793������������\ue794\ue795�����\ue796��\ue797\ue798" ++
      "\ue799\ue79a\ue79b\ue79c\ue79d\ue79e\ue79f",
    "���������������������������������\ue7a0\ue7a1\ue7a2\ue7a3\ue7a4\ue7a5\ue7a6\ue7a7\ue7a8\ue7a9" ++
      "\ue7aa\ue7ab\ue7ac\ue7ad\ue7ae���������������������������������\ue7af\ue7b0\ue7b1\ue7b2\ue7b3" ++
      "\ue7b4\ue7b5\ue7b6\ue7b7\ue7b8\ue7b9\ue7ba\ue7bb",
    "���������������������������\ue7c7��ǹ�\ue7c9\ue7ca\ue7cb\ue7cc���������������������������������" ++
      "����\ue7cd\ue7ce\ue7cf\ue7d0\ue7d1\ue7d2\ue7d3\ue7d4\ue7d5\ue7d6\ue7d7\ue7d8\ue7d9\ue7da\ue7db" ++
      "\ue7dc\ue7dd\ue7de\ue7df\ue7e0\ue7e1",
    "\ue7fe\ue7ff\ue800����������������������������������������������������������������������������" ++
      "\ue801\ue802\ue803\ue804\ue805\ue806\ue807\ue808\ue809\ue80a\ue80b\ue80c\ue80d\ue80e\ue80f"]⟩,
   ⟨215, 250, #[
    "\ue810\ue811\ue812\ue813\ue814"]⟩,
   ⟨254, 80, #[
    "⺁\ue816\ue817\ue818⺄㑳㑇⺈⺋\ue81e㖞㘚㘎⺌⺗㥮㤘\ue826㧏㧟㩳㧐\ue82b\ue82c㭎㱮㳠⺧\ue831\ue832⺪䁖䅟⺮䌷⺳⺶⺷\ue83b䎱䎬⺻䏝䓖" ++
      "䙡䙌\ue843�䜣䜩䝼䞍⻊䥇䥺䥽䦂䦃䦅䦆䦟䦛䦷䦶\ue854\ue855䲣䲟䲠䲡䱷䲢䴓䴔䴕䴖䴗䴘䴙䶮\ue864"]⟩]

end DocBuild.Gb
