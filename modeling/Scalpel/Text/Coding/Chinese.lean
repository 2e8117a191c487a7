import Scalpel.Text.Coding.Basic

/-!
The characters of Chinese standards of the mainland: the first plane, and what its extensions added.
-/

set_option autoImplicit false

namespace Scalpel.Coding

def chinese : Plane := { rows := [
  (1, "\u3000、。・ˉˇ¨〃々―～‖…‘’“”〔〕〈〉《》「」『』〖〗【】±×÷∶∧∨∑∏∪∩∈∷√⊥∥∠⌒⊙∫∮≡≌≈∽∝≠≮≯≤≥∞∵∴♂" ++
    "♀°′″℃＄¤￠￡‰§№☆★○●◎◇◆□■△▲※→←↑↓〓"),
  (2, "����������������⒈⒉⒊⒋⒌⒍⒎⒏⒐⒑⒒⒓⒔⒕⒖⒗⒘⒙⒚⒛⑴⑵⑶⑷⑸⑹⑺⑻⑼⑽⑾⑿⒀⒁⒂⒃⒄⒅⒆⒇①②③④⑤⑥⑦⑧⑨⑩��㈠㈡㈢㈣㈤㈥㈦㈧㈨㈩��" ++
    "ⅠⅡⅢⅣⅤⅥⅦⅧⅨⅩⅪⅫ"),
  (3, "！＂＃￥％＆＇（）＊＋，－．／０１２３４５６７８９：；＜＝＞？＠ＡＢＣＤＥＦＧＨＩＪＫＬＭ" ++
    "ＮＯＰＱＲＳＴＵＶＷＸＹＺ［＼］＾＿｀ａｂｃｄｅｆｇｈｉｊｋｌｍｎｏｐｑｒｓｔｕｖｗｘｙｚ" ++
    "｛｜｝￣"),
  (4, "ぁあぃいぅうぇえぉおかがきぎくぐけげこごさざしじすずせぜそぞただちぢっつづてでとどなにぬね" ++
    "のはばぱひびぴふぶぷへべぺほぼぽまみむめもゃやゅゆょよらりるれろゎわゐゑをん"),
  (5, "ァアィイゥウェエォオカガキギクグケゲコゴサザシジスズセゼソゾタダチヂッツヅテデトドナニヌネ" ++
    "ノハバパヒビピフブプヘベペホボポマミムメモャヤュユョヨラリルレロヮワヰヱヲンヴヵヶ"),
  (6, "ΑΒΓΔΕΖΗΘΙΚΛΜΝΞΟΠΡΣΤΥΦΧΨΩ��������αβγδεζηθικλμνξοπρστυφχψω"),
  (7, "АБВГДЕЁЖЗИЙКЛМНОПРСТУФХЦЧШЩЪЫЬЭЮЯ���������������абвгдеёжзийклмнопрстуфхцчшщъыьэюя"),
  (8, "āáǎàēéěèīíǐìōóǒòūúǔùǖǘǚǜüê����������ㄅㄆㄇㄈㄉㄊㄋㄌㄍㄎㄏㄐㄑㄒㄓㄔㄕㄖㄗㄘㄙㄚㄛㄜㄝㄞㄟ" ++
    "ㄠㄡㄢㄣㄤㄥㄦㄧㄨㄩ"),
  (9, "���─━│┃┄┅┆┇┈┉┊┋┌┍┎┏┐┑┒┓└┕┖┗┘┙┚┛├┝┞┟┠┡┢┣┤┥┦┧┨┩┪┫┬┭┮┯┰┱┲┳┴┵┶┷┸┹┺┻┼┽┾┿╀╁╂╃╄╅╆╇╈╉╊╋"),
  (16, "啊阿埃挨哎唉哀皑癌蔼矮艾碍爱隘鞍氨安俺按暗岸胺案肮昂盎凹敖熬翱袄傲奥懊澳芭捌扒叭吧笆八疤巴" ++
    "拔跋靶把耙坝霸罢爸白柏百摆佰败拜稗斑班搬扳般颁板版扮拌伴瓣半办绊邦帮梆榜膀绑棒磅蚌镑傍谤苞" ++
    "胞包褒剥"),
  (17, "薄雹保堡饱宝抱报暴豹鲍爆杯碑悲卑北辈背贝钡倍狈备惫焙被奔苯本笨崩绷甭泵蹦迸逼鼻比鄙笔彼碧蓖" ++
    "蔽毕毙毖币庇痹闭敝弊必辟壁臂避陛鞭边编贬扁便变卞辨辩辫遍标彪膘表鳖憋别瘪彬斌濒滨宾摈兵冰柄" ++
    "丙秉饼炳"),
  (18, "病并玻菠播拨钵波博勃搏铂箔伯帛舶脖膊渤泊驳捕卜哺补埠不布步簿部怖擦猜裁材才财睬踩采彩菜蔡餐" ++
    "参蚕残惭惨灿苍舱仓沧藏操糙槽曹草厕策侧册测层蹭插叉茬茶查碴搽察岔差诧拆柴豺搀掺蝉馋谗缠铲产" ++
    "阐颤昌猖"),
  (19, "场尝常长偿肠厂敞畅唱倡超抄钞朝嘲潮巢吵炒车扯撤掣彻澈郴臣辰尘晨忱沉陈趁衬撑称城橙成呈乘程惩" ++
    "澄诚承逞骋秤吃痴持匙池迟弛驰耻齿侈尺赤翅斥炽充冲虫崇宠抽酬畴踌稠愁筹仇绸瞅丑臭初出橱厨躇锄" ++
    "雏滁除楚"),
  (20, "础储矗搐触处揣川穿椽传船喘串疮窗幢床闯创吹炊捶锤垂春椿醇唇淳纯蠢戳绰疵茨磁雌辞慈瓷词此刺赐" ++
    "次聪葱囱匆从丛凑粗醋簇促蹿篡窜摧崔催脆瘁粹淬翠村存寸磋撮搓措挫错搭达答瘩打大呆歹傣戴带殆代" ++
    "贷袋待逮"),
  (21, "怠耽担丹单郸掸胆旦氮但惮淡诞弹蛋当挡党荡档刀捣蹈倒岛祷导到稻悼道盗德得的蹬灯登等瞪凳邓堤低" ++
    "滴迪敌笛狄涤翟嫡抵底地蒂第帝弟递缔颠掂滇碘点典靛垫电佃甸店惦奠淀殿碉叼雕凋刁掉吊钓调跌爹碟" ++
    "蝶迭谍叠"),
  (22, "丁盯叮钉顶鼎锭定订丢东冬董懂动栋侗恫冻洞兜抖斗陡豆逗痘都督毒犊独读堵睹赌杜镀肚度渡妒端短锻" ++
    "段断缎堆兑队对墩吨蹲敦顿囤钝盾遁掇哆多夺垛躲朵跺舵剁惰堕蛾峨鹅俄额讹娥恶厄扼遏鄂饿恩而儿耳" ++
    "尔饵洱二"),
  (23, "贰发罚筏伐乏阀法珐藩帆番翻樊矾钒繁凡烦反返范贩犯饭泛坊芳方肪房防妨仿访纺放菲非啡飞肥匪诽吠" ++
    "肺废沸费芬酚吩氛分纷坟焚汾粉奋份忿愤粪丰封枫蜂峰锋风疯烽逢冯缝讽奉凤佛否夫敷肤孵扶拂辐幅氟" ++
    "符伏俘服"),
  (24, "浮涪福袱弗甫抚辅俯釜斧脯腑府腐赴副覆赋复傅付阜父腹负富讣附妇缚咐噶嘎该改概钙盖溉干甘杆柑竿" ++
    "肝赶感秆敢赣冈刚钢缸肛纲岗港杠篙皋高膏羔糕搞镐稿告哥歌搁戈鸽胳疙割革葛格蛤阁隔铬个各给根跟" ++
    "耕更庚羹"),
  (25, "埂耿梗工攻功恭龚供躬公宫弓巩汞拱贡共钩勾沟苟狗垢构购够辜菇咕箍估沽孤姑鼓古蛊骨谷股故顾固雇" ++
    "刮瓜剐寡挂褂乖拐怪棺关官冠观管馆罐惯灌贯光广逛瑰规圭硅归龟闺轨鬼诡癸桂柜跪贵刽辊滚棍锅郭国" ++
    "果裹过哈"),
  (26, "骸孩海氦亥害骇酣憨邯韩含涵寒函喊罕翰撼捍旱憾悍焊汗汉夯杭航壕嚎豪毫郝好耗号浩呵喝荷菏核禾和" ++
    "何合盒貉阂河涸赫褐鹤贺嘿黑痕很狠恨哼亨横衡恒轰哄烘虹鸿洪宏弘红喉侯猴吼厚候后呼乎忽瑚壶葫胡" ++
    "蝴狐糊湖"),
  (27, "弧虎唬护互沪户花哗华猾滑画划化话槐徊怀淮坏欢环桓还缓换患唤痪豢焕涣宦幻荒慌黄磺蝗簧皇凰惶煌" ++
    "晃幌恍谎灰挥辉徽恢蛔回毁悔慧卉惠晦贿秽会烩汇讳诲绘荤昏婚魂浑混豁活伙火获或惑霍货祸击圾基机" ++
    "畸稽积箕"),
  (28, "肌饥迹激讥鸡姬绩缉吉极棘辑籍集及急疾汲即嫉级挤几脊己蓟技冀季伎祭剂悸济寄寂计记既忌际妓继纪" ++
    "嘉枷夹佳家加荚颊贾甲钾假稼价架驾嫁歼监坚尖笺间煎兼肩艰奸缄茧检柬碱硷拣捡简俭剪减荐槛鉴践贱" ++
    "见键箭件"),
  (29, "健舰剑饯渐溅涧建僵姜将浆江疆蒋桨奖讲匠酱降蕉椒礁焦胶交郊浇骄娇嚼搅铰矫侥脚狡角饺缴绞剿教酵" ++
    "轿较叫窖揭接皆秸街阶截劫节桔杰捷睫竭洁结解姐戒藉芥界借介疥诫届巾筋斤金今津襟紧锦仅谨进靳晋" ++
    "禁近烬浸"),
  (30, "尽劲荆兢茎睛晶鲸京惊精粳经井警景颈静境敬镜径痉靖竟竞净炯窘揪究纠玖韭久灸九酒厩救旧臼舅咎就" ++
    "疚鞠拘狙疽居驹菊局咀矩举沮聚拒据巨具距踞锯俱句惧炬剧捐鹃娟倦眷卷绢撅攫抉掘倔爵觉决诀绝均菌" ++
    "钧军君峻"),
  (31, "俊竣浚郡骏喀咖卡咯开揩楷凯慨刊堪勘坎砍看康慷糠扛抗亢炕考拷烤靠坷苛柯棵磕颗科壳咳可渴克刻客" ++
    "课肯啃垦恳坑吭空恐孔控抠口扣寇枯哭窟苦酷库裤夸垮挎跨胯块筷侩快宽款匡筐狂框矿眶旷况亏盔岿窥" ++
    "葵奎魁傀"),
  (32, "馈愧溃坤昆捆困括扩廓阔垃拉喇蜡腊辣啦莱来赖蓝婪栏拦篮阑兰澜谰揽览懒缆烂滥琅榔狼廊郎朗浪捞劳" ++
    "牢老佬姥酪烙涝勒乐雷镭蕾磊累儡垒擂肋类泪棱楞冷厘梨犁黎篱狸离漓理李里鲤礼莉荔吏栗丽厉励砾历" ++
    "利傈例俐"),
  (33, "痢立粒沥隶力璃哩俩联莲连镰廉怜涟帘敛脸链恋炼练粮凉梁粱良两辆量晾亮谅撩聊僚疗燎寥辽潦了撂镣" ++
    "廖料列裂烈劣猎琳林磷霖临邻鳞淋凛赁吝拎玲菱零龄铃伶羚凌灵陵岭领另令溜琉榴硫馏留刘瘤流柳六龙" ++
    "聋咙笼窿"),
  (34, "隆垄拢陇楼娄搂篓漏陋芦卢颅庐炉掳卤虏鲁麓碌露路赂鹿潞禄录陆戮驴吕铝侣旅履屡缕虑氯律率滤绿峦" ++
    "挛孪滦卵乱掠略抡轮伦仑沦纶论萝螺罗逻锣箩骡裸落洛骆络妈麻玛码蚂马骂嘛吗埋买麦卖迈脉瞒馒蛮满" ++
    "蔓曼慢漫"),
  (35, "谩芒茫盲氓忙莽猫茅锚毛矛铆卯茂冒帽貌贸么玫枚梅酶霉煤没眉媒镁每美昧寐妹媚门闷们萌蒙檬盟锰猛" ++
    "梦孟眯醚靡糜迷谜弥米秘觅泌蜜密幂棉眠绵冕免勉娩缅面苗描瞄藐秒渺庙妙蔑灭民抿皿敏悯闽明螟鸣铭" ++
    "名命谬摸"),
  (36, "摹蘑模膜磨摩魔抹末莫墨默沫漠寞陌谋牟某拇牡亩姆母墓暮幕募慕木目睦牧穆拿哪呐钠那娜纳氖乃奶耐" ++
    "奈南男难囊挠脑恼闹淖呢馁内嫩能妮霓倪泥尼拟你匿腻逆溺蔫拈年碾撵捻念娘酿鸟尿捏聂孽啮镊镍涅您" ++
    "柠狞凝宁"),
  (37, "拧泞牛扭钮纽脓浓农弄奴努怒女暖虐疟挪懦糯诺哦欧鸥殴藕呕偶沤啪趴爬帕怕琶拍排牌徘湃派攀潘盘磐" ++
    "盼畔判叛乓庞旁耪胖抛咆刨炮袍跑泡呸胚培裴赔陪配佩沛喷盆砰抨烹澎彭蓬棚硼篷膨朋鹏捧碰坯砒霹批" ++
    "披劈琵毗"),
  (38, "啤脾疲皮匹痞僻屁譬篇偏片骗飘漂瓢票撇瞥拼频贫品聘乒坪苹萍平凭瓶评屏坡泼颇婆破魄迫粕剖扑铺仆" ++
    "莆葡菩蒲埔朴圃普浦谱曝瀑期欺栖戚妻七凄漆柒沏其棋奇歧畦崎脐齐旗祈祁骑起岂乞企启契砌器气迄弃" ++
    "汽泣讫掐"),
  (39, "恰洽牵扦钎铅千迁签仟谦乾黔钱钳前潜遣浅谴堑嵌欠歉枪呛腔羌墙蔷强抢橇锹敲悄桥瞧乔侨巧鞘撬翘峭" ++
    "俏窍切茄且怯窃钦侵亲秦琴勤芹擒禽寝沁青轻氢倾卿清擎晴氰情顷请庆琼穷秋丘邱球求囚酋泅趋区蛆曲" ++
    "躯屈驱渠"),
  (40, "取娶龋趣去圈颧权醛泉全痊拳犬券劝缺炔瘸却鹊榷确雀裙群然燃冉染瓤壤攘嚷让饶扰绕惹热壬仁人忍韧" ++
    "任认刃妊纫扔仍日戎茸蓉荣融熔溶容绒冗揉柔肉茹蠕儒孺如辱乳汝入褥软阮蕊瑞锐闰润若弱撒洒萨腮鳃" ++
    "塞赛三叁"),
  (41, "伞散桑嗓丧搔骚扫嫂瑟色涩森僧莎砂杀刹沙纱傻啥煞筛晒珊苫杉山删煽衫闪陕擅赡膳善汕扇缮墒伤商赏" ++
    "晌上尚裳梢捎稍烧芍勺韶少哨邵绍奢赊蛇舌舍赦摄射慑涉社设砷申呻伸身深娠绅神沈审婶甚肾慎渗声生" ++
    "甥牲升绳"),
  (42, "省盛剩胜圣师失狮施湿诗尸虱十石拾时什食蚀实识史矢使屎驶始式示士世柿事拭誓逝势是嗜噬适仕侍释" ++
    "饰氏市恃室视试收手首守寿授售受瘦兽蔬枢梳殊抒输叔舒淑疏书赎孰熟薯暑曙署蜀黍鼠属术述树束戍竖" ++
    "墅庶数漱"),
  (43, "恕刷耍摔衰甩帅栓拴霜双爽谁水睡税吮瞬顺舜说硕朔烁斯撕嘶思私司丝死肆寺嗣四伺似饲巳松耸怂颂送" ++
    "宋讼诵搜艘擞嗽苏酥俗素速粟僳塑溯宿诉肃酸蒜算虽隋随绥髓碎岁穗遂隧祟孙损笋蓑梭唆缩琐索锁所塌" ++
    "他它她塔"),
  (44, "獭挞蹋踏胎苔抬台泰酞太态汰坍摊贪瘫滩坛檀痰潭谭谈坦毯袒碳探叹炭汤塘搪堂棠膛唐糖倘躺淌趟烫掏" ++
    "涛滔绦萄桃逃淘陶讨套特藤腾疼誊梯剔踢锑提题蹄啼体替嚏惕涕剃屉天添填田甜恬舔腆挑条迢眺跳贴铁" ++
    "帖厅听烃"),
  (45, "汀廷停亭庭挺艇通桐酮瞳同铜彤童桶捅筒统痛偷投头透凸秃突图徒途涂屠土吐兔湍团推颓腿蜕褪退吞屯" ++
    "臀拖托脱鸵陀驮驼椭妥拓唾挖哇蛙洼娃瓦袜歪外豌弯湾玩顽丸烷完碗挽晚皖惋宛婉万腕汪王亡枉网往旺" ++
    "望忘妄威"),
  (46, "巍微危韦违桅围唯惟为潍维苇萎委伟伪尾纬未蔚味畏胃喂魏位渭谓尉慰卫瘟温蚊文闻纹吻稳紊问嗡翁瓮" ++
    "挝蜗涡窝我斡卧握沃巫呜钨乌污诬屋无芜梧吾吴毋武五捂午舞伍侮坞戊雾晤物勿务悟误昔熙析西硒矽晰" ++
    "嘻吸锡牺"),
  (47, "稀息希悉膝夕惜熄烯溪汐犀檄袭席习媳喜铣洗系隙戏细瞎虾匣霞辖暇峡侠狭下厦夏吓掀锨先仙鲜纤咸贤" ++
    "衔舷闲涎弦嫌显险现献县腺馅羡宪陷限线相厢镶香箱襄湘乡翔祥详想响享项巷橡像向象萧硝霄削哮嚣销" ++
    "消宵淆晓"),
  (48, "小孝校肖啸笑效楔些歇蝎鞋协挟携邪斜胁谐写械卸蟹懈泄泻谢屑薪芯锌欣辛新忻心信衅星腥猩惺兴刑型" ++
    "形邢行醒幸杏性姓兄凶胸匈汹雄熊休修羞朽嗅锈秀袖绣墟戌需虚嘘须徐许蓄酗叙旭序畜恤絮婿绪续轩喧" ++
    "宣悬旋玄"),
  (49, "选癣眩绚靴薛学穴雪血勋熏循旬询寻驯巡殉汛训讯逊迅压押鸦鸭呀丫芽牙蚜崖衙涯雅哑亚讶焉咽阉烟淹" ++
    "盐严研蜒岩延言颜阎炎沿奄掩眼衍演艳堰燕厌砚雁唁彦焰宴谚验殃央鸯秧杨扬佯疡羊洋阳氧仰痒养样漾" ++
    "邀腰妖瑶"),
  (50, "摇尧遥窑谣姚咬舀药要耀椰噎耶爷野冶也页掖业叶曳腋夜液一壹医揖铱依伊衣颐夷遗移仪胰疑沂宜姨彝" ++
    "椅蚁倚已乙矣以艺抑易邑屹亿役臆逸肄疫亦裔意毅忆义益溢诣议谊译异翼翌绎茵荫因殷音阴姻吟银淫寅" ++
    "饮尹引隐"),
  (51, "印英樱婴鹰应缨莹萤营荧蝇迎赢盈影颖硬映哟拥佣臃痈庸雍踊蛹咏泳涌永恿勇用幽优悠忧尤由邮铀犹油" ++
    "游酉有友右佑釉诱又幼迂淤于盂榆虞愚舆余俞逾鱼愉渝渔隅予娱雨与屿禹宇语羽玉域芋郁吁遇喻峪御愈" ++
    "欲狱育誉"),
  (52, "浴寓裕预豫驭鸳渊冤元垣袁原援辕园员圆猿源缘远苑愿怨院曰约越跃钥岳粤月悦阅耘云郧匀陨允运蕴酝" ++
    "晕韵孕匝砸杂栽哉灾宰载再在咱攒暂赞赃脏葬遭糟凿藻枣早澡蚤躁噪造皂灶燥责择则泽贼怎增憎曾赠扎" ++
    "喳渣札轧"),
  (53, "铡闸眨栅榨咋乍炸诈摘斋宅窄债寨瞻毡詹粘沾盏斩辗崭展蘸栈占战站湛绽樟章彰漳张掌涨杖丈帐账仗胀" ++
    "瘴障招昭找沼赵照罩兆肇召遮折哲蛰辙者锗蔗这浙珍斟真甄砧臻贞针侦枕疹诊震振镇阵蒸挣睁征狰争怔" ++
    "整拯正政"),
  (54, "帧症郑证芝枝支吱蜘知肢脂汁之织职直植殖执值侄址指止趾只旨纸志挚掷至致置帜峙制智秩稚质炙痔滞" ++
    "治窒中盅忠钟衷终种肿重仲众舟周州洲诌粥轴肘帚咒皱宙昼骤珠株蛛朱猪诸诛逐竹烛煮拄瞩嘱主著柱助" ++
    "蛀贮铸筑"),
  (55, "住注祝驻抓爪拽专砖转撰赚篆桩庄装妆撞壮状椎锥追赘坠缀谆准捉拙卓桌琢茁酌啄着灼浊兹咨资姿滋淄" ++
    "孜紫仔籽滓子自渍字鬃棕踪宗综总纵邹走奏揍租足卒族祖诅阻组钻纂嘴醉最罪尊遵昨左佐柞做作坐座"),
  (56, "亍丌兀丐廿卅丕亘丞鬲孬噩丨禺丿匕乇夭爻卮氐囟胤馗毓睾鼗丶亟鼐乜乩亓芈孛啬嘏仄厍厝厣厥厮靥赝" ++
    "匚叵匦匮匾赜卦卣刂刈刎刭刳刿剀剌剞剡剜蒯剽劂劁劐劓冂罔亻仃仉仂仨仡仫仞伛仳伢佤仵伥伧伉伫佞" ++
    "佧攸佚佝"),
  (57, "佟佗伲伽佶佴侑侉侃侏佾佻侪佼侬侔俦俨俪俅俚俣俜俑俟俸倩偌俳倬倏倮倭俾倜倌倥倨偾偃偕偈偎偬偻" ++
    "傥傧傩傺僖儆僭僬僦僮儇儋仝氽佘佥俎龠汆籴兮巽黉馘冁夔勹匍訇匐凫夙兕亠兖亳衮袤亵脔裒禀嬴蠃羸" ++
    "冫冱冽冼"),
  (58, "凇冖冢冥讠讦讧讪讴讵讷诂诃诋诏诎诒诓诔诖诘诙诜诟诠诤诨诩诮诰诳诶诹诼诿谀谂谄谇谌谏谑谒谔谕" ++
    "谖谙谛谘谝谟谠谡谥谧谪谫谮谯谲谳谵谶卩卺阝阢阡阱阪阽阼陂陉陔陟陧陬陲陴隈隍隗隰邗邛邝邙邬邡" ++
    "邴邳邶邺"),
  (59, "邸邰郏郅邾郐郄郇郓郦郢郜郗郛郫郯郾鄄鄢鄞鄣鄱鄯鄹酃酆刍奂劢劬劭劾哿勐勖勰叟燮矍廴凵凼鬯厶弁" ++
    "畚巯坌垩垡塾墼壅壑圩圬圪圳圹圮圯坜圻坂坩垅坫垆坼坻坨坭坶坳垭垤垌垲埏垧垴垓垠埕埘埚埙埒垸埴" ++
    "埯埸埤埝"),
  (60, "堋堍埽埭堀堞堙塄堠塥塬墁墉墚墀馨鼙懿艹艽艿芏芊芨芄芎芑芗芙芫芸芾芰苈苊苣芘芷芮苋苌苁芩芴芡" ++
    "芪芟苄苎芤苡茉苷苤茏茇苜苴苒苘茌苻苓茑茚茆茔茕苠苕茜荑荛荜茈莒茼茴茱莛荞茯荏荇荃荟荀茗荠茭" ++
    "茺茳荦荥"),
  (61, "荨茛荩荬荪荭荮莰荸莳莴莠莪莓莜莅荼莶莩荽莸荻莘莞莨莺莼菁萁菥菘堇萘萋菝菽菖萜萸萑萆菔菟萏萃" ++
    "菸菹菪菅菀萦菰菡葜葑葚葙葳蒇蒈葺蒉葸萼葆葩葶蒌蒎萱葭蓁蓍蓐蓦蒽蓓蓊蒿蒺蓠蒡蒹蒴蒗蓥蓣蔌甍蔸" ++
    "蓰蔹蔟蔺"),
  (62, "蕖蔻蓿蓼蕙蕈蕨蕤蕞蕺瞢蕃蕲蕻薤薨薇薏蕹薮薜薅薹薷薰藓藁藜藿蘧蘅蘩蘖蘼廾弈夼奁耷奕奚奘匏尢尥" ++
    "尬尴扌扪抟抻拊拚拗拮挢拶挹捋捃掭揶捱捺掎掴捭掬掊捩掮掼揲揸揠揿揄揞揎摒揆掾摅摁搋搛搠搌搦搡" ++
    "摞撄摭撖"),
  (63, "摺撷撸撙撺擀擐擗擤擢攉攥攮弋忒甙弑卟叱叽叩叨叻吒吖吆呋呒呓呔呖呃吡呗呙吣吲咂咔呷呱呤咚咛咄" ++
    "呶呦咝哐咭哂咴哒咧咦哓哔呲咣哕咻咿哌哙哚哜咩咪咤哝哏哞唛哧唠哽唔哳唢唣唏唑唧唪啧喏喵啉啭啁" ++
    "啕唿啐唼"),
  (64, "唷啖啵啶啷唳唰啜喋嗒喃喱喹喈喁喟啾嗖喑啻嗟喽喾喔喙嗪嗷嗉嘟嗑嗫嗬嗔嗦嗝嗄嗯嗥嗲嗳嗌嗍嗨嗵嗤" ++
    "辔嘞嘈嘌嘁嘤嘣嗾嘀嘧嘭噘嘹噗嘬噍噢噙噜噌噔嚆噤噱噫噻噼嚅嚓嚯囔囗囝囡囵囫囹囿圄圊圉圜帏帙帔" ++
    "帑帱帻帼"),
  (65, "帷幄幔幛幞幡岌屺岍岐岖岈岘岙岑岚岜岵岢岽岬岫岱岣峁岷峄峒峤峋峥崂崃崧崦崮崤崞崆崛嵘崾崴崽嵬" ++
    "嵛嵯嵝嵫嵋嵊嵩嵴嶂嶙嶝豳嶷巅彳彷徂徇徉後徕徙徜徨徭徵徼衢彡犭犰犴犷犸狃狁狎狍狒狨狯狩狲狴狷" ++
    "猁狳猃狺"),
  (66, "狻猗猓猡猊猞猝猕猢猹猥猬猸猱獐獍獗獠獬獯獾舛夥飧夤夂饣饧饨饩饪饫饬饴饷饽馀馄馇馊馍馐馑馓馔" ++
    "馕庀庑庋庖庥庠庹庵庾庳赓廒廑廛廨廪膺忄忉忖忏怃忮怄忡忤忾怅怆忪忭忸怙怵怦怛怏怍怩怫怊怿怡恸" ++
    "恹恻恺恂"),
  (67, "恪恽悖悚悭悝悃悒悌悛惬悻悱惝惘惆惚悴愠愦愕愣惴愀愎愫慊慵憬憔憧憷懔懵忝隳闩闫闱闳闵闶闼闾阃" ++
    "阄阆阈阊阋阌阍阏阒阕阖阗阙阚丬爿戕氵汔汜汊沣沅沐沔沌汨汩汴汶沆沩泐泔沭泷泸泱泗沲泠泖泺泫泮" ++
    "沱泓泯泾"),
  (68, "洹洧洌浃浈洇洄洙洎洫浍洮洵洚浏浒浔洳涑浯涞涠浞涓涔浜浠浼浣渚淇淅淞渎涿淠渑淦淝淙渖涫渌涮渫" ++
    "湮湎湫溲湟溆湓湔渲渥湄滟溱溘滠漭滢溥溧溽溻溷滗溴滏溏滂溟潢潆潇漤漕滹漯漶潋潴漪漉漩澉澍澌潸" ++
    "潲潼潺濑"),
  (69, "濉澧澹澶濂濡濮濞濠濯瀚瀣瀛瀹瀵灏灞宀宄宕宓宥宸甯骞搴寤寮褰寰蹇謇辶迓迕迥迮迤迩迦迳迨逅逄逋" ++
    "逦逑逍逖逡逵逶逭逯遄遑遒遐遨遘遢遛暹遴遽邂邈邃邋彐彗彖彘尻咫屐屙孱屣屦羼弪弩弭艴弼鬻屮妁妃" ++
    "妍妩妪妣"),
  (70, "妗姊妫妞妤姒妲妯姗妾娅娆姝娈姣姘姹娌娉娲娴娑娣娓婀婧婊婕娼婢婵胬媪媛婷婺媾嫫媲嫒嫔媸嫠嫣嫱" ++
    "嫖嫦嫘嫜嬉嬗嬖嬲嬷孀尕尜孚孥孳孑孓孢驵驷驸驺驿驽骀骁骅骈骊骐骒骓骖骘骛骜骝骟骠骢骣骥骧纟纡" ++
    "纣纥纨纩"),
  (71, "纭纰纾绀绁绂绉绋绌绐绔绗绛绠绡绨绫绮绯绱绲缍绶绺绻绾缁缂缃缇缈缋缌缏缑缒缗缙缜缛缟缡缢缣缤" ++
    "缥缦缧缪缫缬缭缯缰缱缲缳缵幺畿巛甾邕玎玑玮玢玟珏珂珑玷玳珀珉珈珥珙顼琊珩珧珞玺珲琏琪瑛琦琥" ++
    "琨琰琮琬"),
  (72, "琛琚瑁瑜瑗瑕瑙瑷瑭瑾璜璎璀璁璇璋璞璨璩璐璧瓒璺韪韫韬杌杓杞杈杩枥枇杪杳枘枧杵枨枞枭枋杷杼柰" ++
    "栉柘栊柩枰栌柙枵柚枳柝栀柃枸柢栎柁柽栲栳桠桡桎桢桄桤梃栝桕桦桁桧桀栾桊桉栩梵梏桴桷梓桫棂楮" ++
    "棼椟椠棹"),
  (73, "椤棰椋椁楗棣椐楱椹楠楂楝榄楫榀榘楸椴槌榇榈槎榉楦楣楹榛榧榻榫榭槔榱槁槊槟榕槠榍槿樯槭樗樘橥" ++
    "槲橄樾檠橐橛樵檎橹樽樨橘橼檑檐檩檗檫猷獒殁殂殇殄殒殓殍殚殛殡殪轫轭轱轲轳轵轶轸轷轹轺轼轾辁" ++
    "辂辄辇辋"),
  (74, "辍辎辏辘辚軎戋戗戛戟戢戡戥戤戬臧瓯瓴瓿甏甑甓攴旮旯旰昊昙杲昃昕昀炅曷昝昴昱昶昵耆晟晔晁晏晖" ++
    "晡晗晷暄暌暧暝暾曛曜曦曩贲贳贶贻贽赀赅赆赈赉赇赍赕赙觇觊觋觌觎觏觐觑牮犟牝牦牯牾牿犄犋犍犏" ++
    "犒挈挲掰"),
  (75, "搿擘耄毪毳毽毵毹氅氇氆氍氕氘氙氚氡氩氤氪氲攵敕敫牍牒牖爰虢刖肟肜肓肼朊肽肱肫肭肴肷胧胨胩胪" ++
    "胛胂胄胙胍胗朐胝胫胱胴胭脍脎胲胼朕脒豚脶脞脬脘脲腈腌腓腴腙腚腱腠腩腼腽腭腧塍媵膈膂膑滕膣膪" ++
    "臌朦臊膻"),
  (76, "臁膦欤欷欹歃歆歙飑飒飓飕飙飚殳彀毂觳斐齑斓於旆旄旃旌旎旒旖炀炜炖炝炻烀炷炫炱烨烊焐焓焖焯焱" ++
    "煳煜煨煅煲煊煸煺熘熳熵熨熠燠燔燧燹爝爨灬焘煦熹戾戽扃扈扉礻祀祆祉祛祜祓祚祢祗祠祯祧祺禅禊禚" ++
    "禧禳忑忐"),
  (77, "怼恝恚恧恁恙恣悫愆愍慝憩憝懋懑戆肀聿沓泶淼矶矸砀砉砗砘砑斫砭砜砝砹砺砻砟砼砥砬砣砩硎硭硖硗" ++
    "砦硐硇硌硪碛碓碚碇碜碡碣碲碹碥磔磙磉磬磲礅磴礓礤礞礴龛黹黻黼盱眄眍盹眇眈眚眢眙眭眦眵眸睐睑" ++
    "睇睃睚睨"),
  (78, "睢睥睿瞍睽瞀瞌瞑瞟瞠瞰瞵瞽町畀畎畋畈畛畲畹疃罘罡罟詈罨罴罱罹羁罾盍盥蠲钅钆钇钋钊钌钍钏钐钔" ++
    "钗钕钚钛钜钣钤钫钪钭钬钯钰钲钴钶钷钸钹钺钼钽钿铄铈铉铊铋铌铍铎铐铑铒铕铖铗铙铘铛铞铟铠铢铤" ++
    "铥铧铨铪"),
  (79, "铩铫铮铯铳铴铵铷铹铼铽铿锃锂锆锇锉锊锍锎锏锒锓锔锕锖锘锛锝锞锟锢锪锫锩锬锱锲锴锶锷锸锼锾锿" ++
    "镂锵镄镅镆镉镌镎镏镒镓镔镖镗镘镙镛镞镟镝镡镢镤镥镦镧镨镩镪镫镬镯镱镲镳锺矧矬雉秕秭秣秫稆嵇" ++
    "稃稂稞稔"),
  (80, "稹稷穑黏馥穰皈皎皓皙皤瓞瓠甬鸠鸢鸨鸩鸪鸫鸬鸲鸱鸶鸸鸷鸹鸺鸾鹁鹂鹄鹆鹇鹈鹉鹋鹌鹎鹑鹕鹗鹚鹛鹜" ++
    "鹞鹣鹦鹧鹨鹩鹪鹫鹬鹱鹭鹳疒疔疖疠疝疬疣疳疴疸痄疱疰痃痂痖痍痣痨痦痤痫痧瘃痱痼痿瘐瘀瘅瘌瘗瘊" ++
    "瘥瘘瘕瘙"),
  (81, "瘛瘼瘢瘠癀瘭瘰瘿瘵癃瘾瘳癍癞癔癜癖癫癯翊竦穸穹窀窆窈窕窦窠窬窨窭窳衤衩衲衽衿袂袢裆袷袼裉裢" ++
    "裎裣裥裱褚裼裨裾裰褡褙褓褛褊褴褫褶襁襦襻疋胥皲皴矜耒耔耖耜耠耢耥耦耧耩耨耱耋耵聃聆聍聒聩聱" ++
    "覃顸颀颃"),
  (82, "颉颌颍颏颔颚颛颞颟颡颢颥颦虍虔虬虮虿虺虼虻蚨蚍蚋蚬蚝蚧蚣蚪蚓蚩蚶蛄蚵蛎蚰蚺蚱蚯蛉蛏蚴蛩蛱蛲" ++
    "蛭蛳蛐蜓蛞蛴蛟蛘蛑蜃蜇蛸蜈蜊蜍蜉蜣蜻蜞蜥蜮蜚蜾蝈蜴蜱蜩蜷蜿螂蜢蝽蝾蝻蝠蝰蝌蝮螋蝓蝣蝼蝤蝙蝥" ++
    "螓螯螨蟒"),
  (83, "蟆螈螅螭螗螃螫蟥螬螵螳蟋蟓螽蟑蟀蟊蟛蟪蟠蟮蠖蠓蟾蠊蠛蠡蠹蠼缶罂罄罅舐竺竽笈笃笄笕笊笫笏筇笸" ++
    "笪笙笮笱笠笥笤笳笾笞筘筚筅筵筌筝筠筮筻筢筲筱箐箦箧箸箬箝箨箅箪箜箢箫箴篑篁篌篝篚篥篦篪簌篾" ++
    "篼簏簖簋"),
  (84, "簟簪簦簸籁籀臾舁舂舄臬衄舡舢舣舭舯舨舫舸舻舳舴舾艄艉艋艏艚艟艨衾袅袈裘裟襞羝羟羧羯羰羲籼敉" ++
    "粑粝粜粞粢粲粼粽糁糇糌糍糈糅糗糨艮暨羿翎翕翥翡翦翩翮翳糸絷綦綮繇纛麸麴赳趄趔趑趱赧赭豇豉酊" ++
    "酐酎酏酤"),
  (85, "酢酡酰酩酯酽酾酲酴酹醌醅醐醍醑醢醣醪醭醮醯醵醴醺豕鹾趸跫踅蹙蹩趵趿趼趺跄跖跗跚跞跎跏跛跆跬" ++
    "跷跸跣跹跻跤踉跽踔踝踟踬踮踣踯踺蹀踹踵踽踱蹉蹁蹂蹑蹒蹊蹰蹶蹼蹯蹴躅躏躔躐躜躞豸貂貊貅貘貔斛" ++
    "觖觞觚觜"),
  (86, "觥觫觯訾謦靓雩雳雯霆霁霈霏霎霪霭霰霾龀龃龅龆龇龈龉龊龌黾鼋鼍隹隼隽雎雒瞿雠銎銮鋈錾鍪鏊鎏鐾" ++
    "鑫鱿鲂鲅鲆鲇鲈稣鲋鲎鲐鲑鲒鲔鲕鲚鲛鲞鲟鲠鲡鲢鲣鲥鲦鲧鲨鲩鲫鲭鲮鲰鲱鲲鲳鲴鲵鲶鲷鲺鲻鲼鲽鳄鳅" ++
    "鳆鳇鳊鳋"),
  (87, "鳌鳍鳎鳏鳐鳓鳔鳕鳗鳘鳙鳜鳝鳟鳢靼鞅鞑鞒鞔鞯鞫鞣鞲鞴骱骰骷鹘骶骺骼髁髀髅髂髋髌髑魅魃魇魉魈魍" ++
    "魑飨餍餮饕饔髟髡髦髯髫髻髭髹鬈鬏鬓鬟鬣麽麾縻麂麇麈麋麒鏖麝麟黛黜黝黠黟黢黩黧黥黪黯鼢鼬鼯鼹" ++
    "鼷鼽鼾齄")] }

/-- Characters outside the first plane and its ideographs: a lead byte, the cell of the first one, and
the characters from there on. -/
def chineseExtra : List Run := [
  (162, 97, "ⅰⅱⅲⅳⅴⅵⅶⅷⅸⅹ"),
  (166, 160, "︵︶︹︺︿﹀︽︾﹁﹂﹃﹄"),
  (166, 174, "︻︼︷︸︱"),
  (166, 180, "︳︴"),
  (168, 1, "ˊˋ˙–―‥‵℅℉↖↗↘↙∕∟∣≒≦≧⊿═║╒╓╔╕╖╗╘╙╚╛╜╝╞╟╠╡╢╣╤╥╦╧╨╩╪╫╬╭╮╯╰╱╲╳▁▂▃▄▅▆▇█▉▊▋▌▍▎▏▓▔▕▼▽◢◣◤◥☉⊕〒〝〞"),
  (168, 123, "ɑ"),
  (168, 125, "ńň"),
  (168, 128, "ɡ"),
  (169, 1, "〡〢〣〤〥〦〧〨〩㊣㎎㎏㎜㎝㎞㎡㏄㏎㏑㏒㏕︰￢￤"),
  (169, 26, "℡㈱"),
  (169, 29, "‐"),
  (169, 33, "ー゛゜ヽヾ〆ゝゞ﹉﹊﹋﹌﹍﹎﹏﹐﹑﹒﹔﹕﹖﹗﹙﹚﹛﹜﹝﹞﹟﹠﹡﹢﹣﹤﹥﹦﹨﹩﹪﹫"),
  (169, 86, "〇"),
  (253, 92, "郎凉秊裏隣"),
  (254, 1, "兀嗀﨎﨏﨑﨓﨔礼﨟蘒﨡﨣﨤﨧﨨﨩")]

def chineseLater : List Run := [
  (162, 163, "€"),
  (168, 127, "ǹ"),
  (169, 73, "〾⿰⿱⿲⿳⿴⿵⿶⿷⿸⿹⿺⿻"),
  (254, 17, "⺁"),
  (254, 21, "⺄㑳㑇⺈⺋"),
  (254, 27, "㖞㘚㘎⺌⺗㥮㤘"),
  (254, 35, "㧏㧟㩳㧐"),
  (254, 41, "㭎㱮㳠⺧"),
  (254, 47, "⺪䁖䅟⺮䌷⺳⺶⺷"),
  (254, 56, "䎱䎬⺻䏝䓖䙡䙌"),
  (254, 64, "䜣䜩䝼䞍⻊䥇䥺䥽䦂䦃䦅䦆䦟䦛䦷䦶"),
  (254, 82, "䲣䲟䲠䲡䱷䲢䴓䴔䴕䴖䴗䴘䴙䶮")]

/-- Characters for private use: a lead byte, the cell of the first one, how many there are and the number
of the first. -/
def chinesePrivate : List (Nat × Nat × Nat × Nat) := [
  (161, 1, 96, 58566), (162, 1, 96, 58662), (162, 107, 6, 59238), (162, 164, 1, 59245),
  (162, 175, 2, 59246), (162, 189, 2, 59248), (163, 1, 96, 58758), (164, 1, 96, 58854),
  (164, 180, 11, 59250), (165, 1, 96, 58950), (165, 183, 8, 59261), (166, 1, 96, 59046),
  (166, 121, 8, 59269), (166, 153, 7, 59277), (166, 172, 2, 59284), (166, 179, 1, 59286),
  (166, 182, 9, 59287), (167, 1, 96, 59142), (167, 130, 15, 59296), (167, 178, 13, 59311),
  (168, 86, 11, 59324), (168, 124, 1, 59335), (168, 129, 4, 59337), (168, 170, 21, 59341),
  (169, 25, 1, 59362), (169, 28, 1, 59363), (169, 30, 3, 59364), (169, 87, 13, 59380),
  (169, 176, 15, 59393), (170, 97, 94, 57344), (171, 97, 94, 57438), (172, 97, 94, 57532),
  (173, 97, 94, 57626), (174, 97, 94, 57720), (175, 97, 94, 57814), (215, 186, 5, 59408),
  (248, 97, 94, 57908), (249, 97, 94, 58002), (250, 97, 94, 58096), (251, 97, 94, 58190),
  (252, 97, 94, 58284), (253, 97, 94, 58378), (254, 18, 3, 59414), (254, 26, 1, 59422),
  (254, 34, 1, 59430), (254, 39, 2, 59435), (254, 45, 2, 59441), (254, 55, 1, 59451),
  (254, 63, 1, 59459), (254, 80, 2, 59476), (254, 96, 1, 59492), (254, 97, 94, 58472)]

/-- Characters with four bytes below U+10000: the place of the first one among all fours of bytes, its
number and how many follow one another. -/
def chineseRanges : List (Nat × Nat × Nat) := [
  (0, 128, 36), (36, 165, 2), (38, 169, 7), (45, 178, 5), (50, 184, 31), (81, 216, 8),
  (89, 226, 6), (95, 235, 1), (96, 238, 4), (100, 244, 3), (103, 248, 1), (104, 251, 1),
  (105, 253, 4), (109, 258, 17), (126, 276, 7), (133, 284, 15), (148, 300, 24), (172, 325, 3),
  (175, 329, 4), (179, 334, 29), (208, 364, 98), (306, 463, 1), (307, 465, 1), (308, 467, 1),
  (309, 469, 1), (310, 471, 1), (311, 473, 1), (312, 475, 1), (313, 477, 28), (341, 506, 87),
  (428, 594, 15), (443, 610, 101), (544, 712, 1), (545, 716, 13), (558, 730, 183), (741, 930, 1),
  (742, 938, 7), (749, 962, 1), (750, 970, 55), (805, 1026, 14), (819, 1104, 1), (820, 1106, 7102),
  (7922, 8209, 2), (7924, 8215, 1), (7925, 8218, 2), (7927, 8222, 7), (7934, 8231, 9),
  (7943, 8241, 1), (7944, 8244, 1), (7945, 8246, 5), (7950, 8252, 112), (8062, 8365, 86),
  (8148, 8452, 1), (8149, 8454, 3), (8152, 8458, 12), (8164, 8471, 10), (8174, 8482, 62),
  (8236, 8556, 4), (8240, 8570, 22), (8262, 8596, 2), (8264, 8602, 110), (8374, 8713, 6),
  (8380, 8720, 1), (8381, 8722, 3), (8384, 8726, 4), (8388, 8731, 2), (8390, 8737, 2),
  (8392, 8740, 1), (8393, 8742, 1), (8394, 8748, 2), (8396, 8751, 5), (8401, 8760, 5),
  (8406, 8766, 10), (8416, 8777, 3), (8419, 8781, 5), (8424, 8787, 13), (8437, 8802, 2),
  (8439, 8808, 6), (8445, 8816, 37), (8482, 8854, 3), (8485, 8858, 11), (8496, 8870, 25),
  (8521, 8896, 82), (8603, 8979, 333), (8936, 9322, 10), (8946, 9372, 100), (9046, 9548, 4),
  (9050, 9588, 13), (9063, 9616, 3), (9066, 9622, 10), (9076, 9634, 16), (9092, 9652, 8),
  (9100, 9662, 8), (9108, 9672, 3), (9111, 9676, 2), (9113, 9680, 18), (9131, 9702, 31),
  (9162, 9735, 2), (9164, 9738, 54), (9218, 9793, 1), (9219, 9795, 2110), (11329, 11906, 2),
  (11331, 11909, 3), (11334, 11913, 2), (11336, 11917, 10), (11346, 11928, 15), (11361, 11944, 2),
  (11363, 11947, 3), (11366, 11951, 4), (11370, 11956, 2), (11372, 11960, 3), (11375, 11964, 14),
  (11389, 11979, 293), (11682, 12284, 4), (11686, 12292, 1), (11687, 12312, 5), (11692, 12319, 2),
  (11694, 12330, 20), (11714, 12351, 2), (11716, 12436, 7), (11723, 12447, 2), (11725, 12535, 5),
  (11730, 12543, 6), (11736, 12586, 246), (11982, 12842, 7), (11989, 12850, 113),
  (12102, 12964, 234), (12336, 13200, 12), (12348, 13215, 2), (12350, 13218, 34),
  (12384, 13253, 9), (12393, 13263, 2), (12395, 13267, 2), (12397, 13270, 113), (12510, 13384, 43),
  (12553, 13428, 298), (12851, 13727, 111), (12962, 13839, 11), (12973, 13851, 765),
  (13738, 14617, 85), (13823, 14703, 96), (13919, 14801, 14), (13933, 14816, 147),
  (14080, 14964, 218), (14298, 15183, 287), (14585, 15471, 113), (14698, 15585, 885),
  (15583, 16471, 264), (15847, 16736, 471), (16318, 17208, 116), (16434, 17325, 4),
  (16438, 17330, 43), (16481, 17374, 248), (16729, 17623, 373), (17102, 17997, 20),
  (17122, 18018, 193), (17315, 18212, 5), (17320, 18218, 82), (17402, 18301, 16),
  (17418, 18318, 441), (17859, 18760, 50), (17909, 18811, 2), (17911, 18814, 4), (17915, 18820, 1),
  (17916, 18823, 20), (17936, 18844, 3), (17939, 18848, 22), (17961, 18872, 703),
  (18664, 19576, 39), (18703, 19620, 111), (18814, 19738, 148), (18962, 19887, 81),
  (19043, 40870, 14426), (33469, 59244, 1), (33470, 59336, 1), (33471, 59367, 13),
  (33484, 59413, 1), (33485, 59417, 5), (33490, 59423, 7), (33497, 59431, 4), (33501, 59437, 4),
  (33505, 59443, 8), (33513, 59452, 7), (33520, 59460, 16), (33536, 59478, 14),
  (33550, 59493, 4295), (37845, 63789, 76), (37921, 63866, 27), (37948, 63894, 81),
  (38029, 63976, 9), (38038, 63986, 26), (38064, 64016, 1), (38065, 64018, 1), (38066, 64021, 3),
  (38069, 64025, 6), (38075, 64034, 1), (38076, 64037, 2), (38078, 64042, 1030), (39108, 65074, 1),
  (39109, 65093, 4), (39113, 65107, 1), (39114, 65112, 1), (39115, 65127, 1), (39116, 65132, 149),
  (39265, 65375, 129), (39394, 65510, 26)]

end Scalpel.Coding

/-! ### Encodings of Chinese on the mainland

There are the plane alone, the plane with all ideographs of the basic
block, and the latter with every other character in four bytes. In a further one, which has bytes below
128 only, a tilde and a brace stand before and after the characters of the plane.
-/

namespace Scalpel.Coding.Chinese

open Scalpel

variable [Halves]

def planeChar? (first second : UInt8) : Option Char :=
  if first < 0xA1 || second < 0xA1 then none
  else chinese.char? (first.toNat - 0xA0) (second.toNat - 0xA0)

def stepOf {σ : Type} (state : σ) (c? : Option Char) (count : Nat) : Step σ :=
  match c? with
  | some c => .found [c] count state
  | none => .illegal 1

/-- Reading characters of one byte, and of two bytes by a table. -/
def readPairs (char? : UInt8 → UInt8 → Option Char) : Unit → Bytes → Step Unit
  | _, first :: rest =>
    if first < 0x80 then .found [Char.ofNat first.toNat] 1 ()
    else
      match rest with
      | second :: _ => stepOf () (char? first second) 2
      | [] => .incomplete
  | _, [] => .incomplete

def writePairs (bytes? : Char → Option Bytes) (_ : Unit) (c : Char) : Option (Bytes × Unit) :=
  match asciiByte? c with
  | some byte => some ([byte], ())
  | none => (bytes? c).map (·, ())

def planeBytes? (c : Char) : Option Bytes :=
  (chinese.cell? c).map fun (row, cell) => [(0xA0 + row).toUInt8, (0xA0 + cell).toUInt8]

/-! ### All ideographs of the basic block -/

def otherIdeographs : Array Char :=
  chinese.unlisted 0x4E00 20902

def cellOf? (second : UInt8) : Option Nat :=
  if 0x40 ≤ second && second ≤ 0x7E then some (second.toNat - 0x3F)
  else if 0x80 ≤ second && second ≤ 0xFE then some (second.toNat - 0x40)
  else none

def secondOf (cell : Nat) : UInt8 :=
  (if cell < 0x40 then cell + 0x3F else cell + 0x40).toUInt8

/-- The place of a lead byte and a cell among the ideographs that the plane does not have: before the
plane's rows all cells are theirs, after its marks and letters the cells below its own. -/
def ideographPlace? (lead cell : Nat) : Option Nat :=
  if 0x81 ≤ lead && lead ≤ 0xA0 then some ((lead - 0x81) * 190 + cell - 1)
  else if 0xAA ≤ lead && lead ≤ 0xFE && cell ≤ 96 then some (6080 + (lead - 0xAA) * 96 + cell - 1)
  else none

def ideographBytes (place : Nat) : Bytes :=
  if place < 6080 then [(0x81 + place / 190).toUInt8, secondOf (place % 190 + 1)]
  else [(0xAA + (place - 6080) / 96).toUInt8, secondOf ((place - 6080) % 96 + 1)]

def moved : List (Char × UInt8 × UInt8) :=
  [('\u2014', 0xA1, 0xAA), ('\u2015', 0xA8, 0x44), ('\xb7', 0xA1, 0xA4)]

def fullChar? (first second : UInt8) : Option Char :=
  match moved.find? fun entry => entry.2 = (first, second), planeChar? first second with
  | some entry, _ => some entry.1
  | none, some c => some c
  | none, none =>
    match cellOf? second with
    | none => none
    | some cell =>
      match runChar? chineseExtra first.toNat cell with
      | some c => some c
      | none => (ideographPlace? first.toNat cell).bind fun place => otherIdeographs[place]?

def cellBytes (place : Nat × Nat) : Bytes :=
  [place.1.toUInt8, secondOf place.2]

def fullBytes? (c : Char) : Option Bytes :=
  match moved.lookup c with
  | some (first, second) => some [first, second]
  | none =>
    if c = '\u30fb' then none
    else
      match planeBytes? c, runCell? chineseExtra c with
      | some bytes, _ => some bytes
      | none, some place => some (cellBytes place)
      | none, none =>
        if 0x4E00 ≤ c.toNat && c.toNat < 0x4E00 + 20902 then
          (otherIdeographs.idxOf? c).map ideographBytes
        else none

/-! ### Every character -/

def privateChar? (lead cell : Nat) : Option Char :=
  chinesePrivate.findSome? fun (row, first, count, number) =>
    if row = lead && first ≤ cell && cell < first + count then
      some (Char.ofNat (number + cell - first))
    else none

def privateCell? (c : Char) : Option (Nat × Nat) :=
  chinesePrivate.findSome? fun (row, first, count, number) =>
    if number ≤ c.toNat && c.toNat < number + count then some (row, first + c.toNat - number)
    else none

def latestChar? (first second : UInt8) : Option Char :=
  match fullChar? first second, cellOf? second with
  | some c, _ => some c
  | none, none => none
  | none, some cell =>
    match runChar? chineseLater first.toNat cell with
    | some c => some c
    | none => privateChar? first.toNat cell

def fourPlace (a b c d : Nat) : Nat :=
  (a * 10 + b) * 1260 + c * 10 + d

def fourBytes (lead place : Nat) : Bytes :=
  [(lead + place / 12600).toUInt8, (0x30 + place / 1260 % 10).toUInt8,
    (0x81 + place / 10 % 126).toUInt8, (0x30 + place % 10).toUInt8]

def fourChar? (a b c d : UInt8) : Option Char :=
  if a < 0x81 || 0xFE < a || c < 0x81 || 0xFE < c || d < 0x30 || 0x39 < d then none
  else
    let place (lead : Nat) : Nat :=
      fourPlace (a.toNat - lead) (b.toNat - 0x30) (c.toNat - 0x81) (d.toNat - 0x30)
    if a < 0x85 then
      chineseRanges.findSome? fun (first, number, count) =>
        if first ≤ place 0x81 && place 0x81 < first + count then
          some (Char.ofNat (number + place 0x81 - first))
        else none
    else if a < 0x90 then none
    else
      let number := 0x10000 + place 0x90
      if number ≤ 0x10FFFF then some (Char.ofNat number) else none

def latestBytes? (c : Char) : Option Bytes :=
  if Half.isHalf c then none
  else if 0x10000 ≤ c.toNat then some (fourBytes 0x90 (c.toNat - 0x10000))
  else
    match fullBytes? c, runCell? chineseLater c, privateCell? c with
    | some bytes, _, _ => some bytes
    | none, some place, _ | none, none, some place => some (cellBytes place)
    | none, none, none =>
      chineseRanges.findSome? fun (first, number, count) =>
        if number ≤ c.toNat && c.toNat < number + count then
          some (fourBytes 0x81 (first + c.toNat - number))
        else none

def readLatest : Unit → Bytes → Step Unit
  | _, first :: rest =>
    if first < 0x80 then .found [Char.ofNat first.toNat] 1 ()
    else
      match rest with
      | [] => .incomplete
      | second :: rest =>
        if 0x30 ≤ second && second ≤ 0x39 then
          match rest with
          | third :: fourth :: _ => stepOf () (fourChar? first second third fourth) 4
          | _ => .incomplete
        else stepOf () (latestChar? first second) 2
  | _, [] => .incomplete

/-! ### Bytes below 128 only -/

/-- Reading between tildes; the state says whether characters of the plane are being read. -/
def readTilde : Bool → Bytes → Step Bool
  | inPlane, first :: rest =>
    if first = 126 then
      match inPlane, rest with
      | _, [] => .incomplete
      | false, 126 :: _ => .found ['~'] 2 false
      | false, 123 :: _ => .found [] 2 true
      | false, 10 :: _ => .found [] 2 false
      | true, 125 :: _ => .found [] 2 false
      | _, _ => .illegal 1
    else if 0x80 ≤ first then .illegal 1
    else if !inPlane then .found [Char.ofNat first.toNat] 1 false
    else
      match rest with
      | [] => .incomplete
      | second :: _ =>
        if 0x80 ≤ second then .illegal 1
        else stepOf true (planeChar? (first + 0x80) (second + 0x80)) 2
  | _, [] => .incomplete

def writeTilde (inPlane : Bool) (c : Char) : Option (Bytes × Bool) :=
  match asciiByte? c with
  | some byte =>
    some ((if inPlane then [126, 125] else []) ++ (if byte = 126 then [126, 126] else [byte]), false)
  | none =>
    (planeBytes? c).map fun bytes =>
      ((if inPlane then [] else [126, 123]) ++ bytes.map (· - 0x80), true)

end Scalpel.Coding.Chinese
