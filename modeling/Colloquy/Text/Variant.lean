import Colloquy.Text.CodeRange

/-!
# Variants of letters

Ligatures, full-width and mathematical letters and the like stand for plain ones: names that differ
only in such variants name the same thing. Variants of ideographs and of Arabic letters are left as
they are.
-/

namespace Colloquy.Text

def plainForms : LetterMap := .ofText
  "aa-aa~49 b5-b5+307 ba-ba~4b 17f-17f~10c 2b0-2b2/~248 2b1-2b1~4b 2b3-2b3~241 2b4-2b4~3b
   2b5-2b5~3a 2b6-2b6~35 2b7-2b7~240 2b8-2b8~23f 2e0-2e0~7d 2e1-2e1~275 2e2-2e2~26f 2e3-2e3~26b
   2e4-2e4~4f 340-341~40 343-343~30 374-374~bb 387-387~2d0 3d0-3d0~1e 3d1-3d1~19 3d2-3d2~2d
   3d3-3d3~45 3d4-3d4~29 3d5-3d5~f 3d6-3d6~16 3f0-3f0~36 3f1-3f2~30 3f4-3f4~5c 3f5-3f5~40
   3f9-3f9~56 10fc-10fc~20 1d2c-1d2c~1ceb 1d2d-1d2d~1c67 1d2e-1d30/~1cec 1d31-1d39/~1cec
   1d32-1d32~1ba4 1d34-1d3a/~1cec 1d3c-1d3c~1ced 1d3d-1d3d~1b1b 1d3e-1d3e~1cee 1d3f-1d3f~1ced
   1d40-1d41~1cec 1d42-1d42~1ceb 1d43-1d43~1ce2 1d44-1d45~1af4 1d46-1d46~44 1d47-1d47~1ce5
   1d48-1d49~1ce4 1d4a-1d4a~1af1 1d4b-1d4c~1af0 1d4d-1d4d~1ce6 1d4f-1d4f~1ce4 1d50-1d52/~1ce3
   1d51-1d51~1c06 1d53-1d53~1aff 1d54-1d55~3e 1d56-1d56~1ce6 1d57-1d58~1ce3 1d59-1d59~3c
   1d5a-1d5a~1aeb 1d5b-1d5b~1ce5 1d5c-1d5c~37 1d5d-1d5f~19ab 1d60-1d61~199a 1d62-1d62~1cf9
   1d63-1d63~1cf1 1d64-1d65~1cef 1d66-1d67~19b4 1d68-1d68~19a7 1d69-1d6a~19a3 1d78-1d78~193b
   1d9b-1d9b~1b49 1d9c-1d9c~1d39 1d9d-1d9d~1b48 1d9e-1d9e~1cae 1d9f-1d9f~1b43 1da0-1da0~1d3a
   1da1-1da1~1b42 1da2-1da2~1b41 1da3-1da3~1b3e 1da4-1da6~1b3c 1da7-1da7~2c 1da8-1da8~1b0b
   1da9-1da9~1b3c 1daa-1daa~25 1dab-1dab~1b0c 1dac-1dac~1b3b 1dad-1dad~1b3d 1dae-1db1~1b3c
   1db2-1db2~1b3a 1db3-1db4~1b31 1db5-1db5~1c0a 1db6-1db7~1b2d 1db8-1db8~9c 1db9-1dba~1b2e
   1dbb-1dbb~1d41 1dbc-1dbe~1b2c 1dbf-1dbf~1a07 1e9b-1e9b~3a 1f71-1f71~1bc5 1f73-1f73~1bc6
   1f75-1f75~1bc7 1f77-1f77~1bc8 1f79-1f79~1bad 1f7b-1f7b~1bae 1f7d-1f7d~1baf 1fbb-1fbb~1c35
   1fbe-1fbe~1c05 1fc9-1fc9~1c41 1fcb-1fcb~1c42 1fd3-1fd3~1c43 1fdb-1fdb~1c51 1fe3-1fe3~1c33
   1feb-1feb~1c5d 1ff9-1ff9~1c6d 1ffb-1ffb~1c6c 2071-2071~2008 207f-207f~2011 2090-2090~202f
   2091-2091~202c 2092-2092~2023 2093-2093~201b 2094-2094~1e3b 2095-2095~202d 2096-2099~202b
   209a-209a~202a 209b-209c~2028 2102-2102~20bf 2107-2107~1f77 210a-210a~20a3 210b-210b~20c3
   210c-210c~20c4 210d-210d~20c5 210e-210e~20a6 210f-210f~1fe8 2110-2110~20c7 2111-2111~20c8
   2112-2112~20c6 2113-2113~20a7 2115-2115~20c7 2119-211b~20c9 211c-211c~20ca 211d-211d~20cb
   2124-2124~20ca 2126-2126~1d7d 2128-2128~20ce 212a-212a~20df 212b-212b~2066 212c-212d~20ea
   212f-212f~20ca 2130-2131~20eb 2133-2133~20e6 2134-2134~20c5 2135-2138~1b65 2139-2139~20d0
   213c-213c~1d7c 213d-213d~1d8a 213e-213e~1dab 213f-213f~1d9f 2145-2145~2101 2146-2147~20e2
   2148-2149~20df 2160-2160~2117 2164-2164~210e 2169-2169~2111 216c-216c~2120 216d-216e~212a
   216f-216f~2122 2170-2170~2107 2174-2174~20fe 2179-2179~2101 217c-217c~2110 217d-217e~211a
   217f-217f~2112 2c7c-2c7c~2c12 2c7d-2c7d~2c27 2d6f-2d6f~e 3038-3038+2309 3039-303a+230b
   3131-3132~2031 3133-3135/~1f89 3134-3134~2032 3136-3136~1f89 3137-3139~2034 313a-313f~1f8a
   3140-3140~2026 3141-3143~203b 3144-3144~2023 3145-314e~203c 314f-3163~1fee 3164-3164~2004
   3165-3166~2051 3167-3168~1fa0 3169-3169~1f9d 316a-316a~1f9c 316b-316b~1f98 316c-316c~1f95
   316d-316d~1f94 316e-316e~2052 316f-316f~1f92 3170-3170~1f91 3171-3172~2054 3173-3173~2053
   3174-3175~2052 3176-3176~204f 3177-3177~204e 3178-317c~204d 317d-317d~204b 317e-317e~2048
   317f-317f~203f 3180-3180~2039 3181-3181~2035 3182-3183~1f91 3184-3186~202d 3187-3188~2003
   3189-3189~2001 318a-318b~1ff9 318c-318c~1ff8 318d-318d~1fef 318e-318e~1fed a69c-a69c~a252
   a69d-a69d~a251 a770-a770~1 a7f2-a7f2~a7af a7f3-a7f3~a7ad a7f4-a7f4~a7a3 a7f8-a7f8~a6d2
   a7f9-a7f9~a6a6 ab5c-ab5c~435 ab5d-ab5d~26 ab5e-ab5e~a8f3 ab5f-ab5f~d ab69-ab69~a8dc
   fb20-fb20~f53e fb21-fb21~f551 fb22-fb23~f54f fb24-fb26~f549 fb27-fb27~f53f fb28-fb28~f53e
   fe33-fe33~fdd4 fe34-fe34~fdd5 fe4d-fe4d~fdee fe4e-fe4e~fdef fe4f-fe4f~fdf0 ff10-ff19~fee0
   ff21-ff3a~fee0 ff3f-ff59/~fee0 ff42-ff5a/~fee0 ff66-ff66~ce74 ff67-ff67~cec6 ff68-ff68~cec5
   ff69-ff69~cec4 ff6a-ff6a~cec3 ff6b-ff6b~cec2 ff6c-ff6c~ce89 ff6d-ff6d~ce88 ff6e-ff6e~ce87
   ff6f-ff6f~ceac ff70-ff70~ce74 ff71-ff71~cecf ff72-ff72~cece ff73-ff73~cecd ff74-ff74~cecc
   ff75-ff76~cecb ff77-ff77~ceca ff78-ff78~cec9 ff79-ff79~cec8 ff7a-ff7a~cec7 ff7b-ff7b~cec6
   ff7c-ff7c~cec5 ff7d-ff7d~cec4 ff7e-ff7e~cec3 ff7f-ff7f~cec2 ff80-ff80~cec1 ff81-ff81~cec0
   ff82-ff82~cebe ff83-ff83~cebd ff84-ff84~cebc ff85-ff8a~cebb ff8b-ff8b~ceb9 ff8c-ff8c~ceb7
   ff8d-ff8d~ceb5 ff8e-ff8e~ceb3 ff8f-ff93~ceb1 ff94-ff94~ceb0 ff95-ff95~ceaf ff96-ff9b~ceae
   ff9c-ff9c~cead ff9d-ff9d~ceaa ff9e-ff9f~cf05 ffa0-ffa0~ee40 ffa1-ffa2~eea1 ffa3-ffa5/~edf9
   ffa4-ffa4~eea2 ffa6-ffa6~edf9 ffa7-ffa9~eea4 ffaa-ffaf~edfa ffb0-ffb0~ee96 ffb1-ffb3~eeab
   ffb4-ffb4~ee93 ffb5-ffbe~eeac ffc2-ffc7~ee61 ffca-ffcf~ee63 ffd2-ffd7~ee65 ffda-ffdc~ee67
   10781-10782~104b1 10783-10783~1069d 10784-10784~104eb 10785-10785~10532 10787-10789/~104e4
   10788-10788~5c22 1078a-1078a~104e6 1078b-1078c~10535 1078d-1078d~e9fc 1078e-1078e~10536
   1078f-1078f~10531 10790-10790~104e7 10791-10791~1052d 10792-10792~10530 10793-10793~10533
   10794-10794~104f9 10795-10795~1066e 10796-10796~104fa 10797-10797~10530 10798-10798~10514
   10799-1079a~104ef 1079b-1079b~1052f 1079c-1079c+d768 1079d-1079d~600f 1079e-1079e~10530
   1079f-1079f+d766 107a0-107a0~10512 107a1-107a1+d765 107a2-107a2~106aa 107a3-107a4~1052d
   107a5-107a5~10734 107a6-107a6~1052c 107a7-107a7+d761 107a8-107a9~1052b 107aa-107aa~1052a
   107ab-107ab~10503 107ac-107ac~10506 107ad-107ad~5c46 107ae-107ae~10507 107af-107af~10527
   107b0-107b0~db3f 107b2-107b2~10523 107b3-107b4~10512 107b5-107b5~1051d 107b6-107b8~105f6
   107b9-107b9+d751 107ba-107ba+d764 1d400-1d419~1d3bf 1d41a-1d433~1d3b9 1d434-1d44d~1d3f3
   1d44e-1d466/~1d3ed 1d44f-1d453/~1d3ed 1d457-1d467/~1d3ed 1d468-1d481~1d427 1d482-1d49b~1d421
   1d49c-1d49e/~1d45b 1d49f-1d49f~1d45b 1d4a2-1d4a2~1d45b 1d4a5-1d4a6~1d45b 1d4a9-1d4ac~1d45b
   1d4ae-1d4b5~1d45b 1d4b6-1d4b9~1d455 1d4bb-1d4cf/~1d455 1d4be-1d4c2/~1d455 1d4c6-1d4ce/~1d455
   1d4d0-1d4e9~1d48f 1d4ea-1d503~1d489 1d504-1d505~1d4c3 1d507-1d50a~1d4c3 1d50d-1d514~1d4c3
   1d516-1d51c~1d4c3 1d51e-1d537~1d4bd 1d538-1d539~1d4f7 1d53b-1d53e~1d4f7 1d540-1d544~1d4f7
   1d546-1d546~1d4f7 1d54a-1d550~1d4f7 1d552-1d56b~1d4f1 1d56c-1d585~1d52b 1d586-1d59f~1d525
   1d5a0-1d5b9~1d55f 1d5ba-1d5d3~1d559 1d5d4-1d5ed~1d593 1d5ee-1d607~1d58d 1d608-1d621~1d5c7
   1d622-1d63b~1d5c1 1d63c-1d655~1d5fb 1d656-1d66f~1d5f5 1d670-1d689~1d62f 1d68a-1d6a3~1d629
   1d6a4-1d6a4~1d573 1d6a5-1d6a5~1d46e 1d6a8-1d6b8~1d317 1d6b9-1d6b9~1d321 1d6ba-1d6c0~1d317
   1d6c2-1d6da~1d311 1d6dc-1d6dc~1d327 1d6dd-1d6dd~1d325 1d6de-1d6de~1d324 1d6df-1d6df~1d319
   1d6e0-1d6e0~1d31f 1d6e1-1d6e1~1d321 1d6e2-1d6f2~1d351 1d6f3-1d6f3~1d35b 1d6f4-1d6fa~1d351
   1d6fc-1d714~1d34b 1d716-1d716~1d361 1d717-1d717~1d35f 1d718-1d718~1d35e 1d719-1d719~1d353
   1d71a-1d71a~1d359 1d71b-1d71b~1d35b 1d71c-1d72c~1d38b 1d72d-1d72d~1d395 1d72e-1d734~1d38b
   1d736-1d74e~1d385 1d750-1d750~1d39b 1d751-1d751~1d399 1d752-1d752~1d398 1d753-1d753~1d38d
   1d754-1d754~1d393 1d755-1d755~1d395 1d756-1d766~1d3c5 1d767-1d767~1d3cf 1d768-1d76e~1d3c5
   1d770-1d788~1d3bf 1d78a-1d78a~1d3d5 1d78b-1d78b~1d3d3 1d78c-1d78c~1d3d2 1d78d-1d78d~1d3c7
   1d78e-1d78e~1d3cd 1d78f-1d78f~1d3cf 1d790-1d7a0~1d3ff 1d7a1-1d7a1~1d409 1d7a2-1d7a8~1d3ff
   1d7aa-1d7c2~1d3f9 1d7c4-1d7c4~1d40f 1d7c5-1d7c5~1d40d 1d7c6-1d7c6~1d40c 1d7c7-1d7c7~1d401
   1d7c8-1d7c8~1d407 1d7c9-1d7c9~1d409 1d7ca-1d7cb~1d3ee 1d7ce-1d7d7~1d79e 1d7d8-1d7e1~1d7a8
   1d7e2-1d7eb~1d7b2 1d7ec-1d7f5~1d7bc 1d7f6-1d7ff~1d7c6 1fbf0-1fbf9~1fbc0"
  "132=49,4a 133=69,6a 13f=4c,b7 140=6c,b7 149=2bc,6e 1c4=44,17d 1c5=44,17e 1c6=64,17e 1c7=4c,4a
   1c8=4c,6a 1c9=6c,6a 1ca=4e,4a 1cb=4e,6a 1cc=6e,6a 1f1=44,5a 1f2=44,7a 1f3=64,7a 344=308,301
   587=565,582 675=627,674 676=648,674 677=6c7,674 678=64a,674 958=915,93c 959=916,93c 95a=917,93c
   95b=91c,93c 95c=921,93c 95d=922,93c 95e=92b,93c 95f=92f,93c 9dc=9a1,9bc 9dd=9a2,9bc 9df=9af,9bc
   a33=a32,a3c a36=a38,a3c a59=a16,a3c a5a=a17,a3c a5b=a1c,a3c a5e=a2b,a3c b5c=b21,b3c b5d=b22,b3c
   e33=e4d,e32 eb3=ecd,eb2 edc=eab,e99 edd=eab,ea1 f43=f42,fb7 f4d=f4c,fb7 f52=f51,fb7 f57=f56,fb7
   f5c=f5b,fb7 f69=f40,fb5 f73=f71,f72 f75=f71,f74 f76=fb2,f80 f77=fb2,f71,f80 f78=fb3,f80
   f79=fb3,f71,f80 f81=f71,f80 f93=f92,fb7 f9d=f9c,fb7 fa2=fa1,fb7 fa7=fa6,fb7 fac=fab,fb7
   fb9=f90,fb5 1e9a=61,2be 2161=49,49 2162=49,49,49 2163=49,56 2165=56,49 2166=56,49,49
   2167=56,49,49,49 2168=49,58 216a=58,49 216b=58,49,49 2171=69,69 2172=69,69,69 2173=69,76
   2175=76,69 2176=76,69,69 2177=76,69,69,69 2178=69,78 217a=78,69 217b=78,69,69 309f=3088,308a
   30ff=30b3,30c8 fb00=66,66 fb01=66,69 fb02=66,6c fb03=66,66,69 fb04=66,66,6c fb05=73,74
   fb06=73,74 fb13=574,576 fb14=574,565 fb15=574,56b fb16=57e,576 fb17=574,56d fb1d=5d9,5b4
   fb1f=5f2,5b7 fb2a=5e9,5c1 fb2b=5e9,5c2 fb2c=5e9,5bc,5c1 fb2d=5e9,5bc,5c2 fb2e=5d0,5b7
   fb2f=5d0,5b8 fb30=5d0,5bc fb31=5d1,5bc fb32=5d2,5bc fb33=5d3,5bc fb34=5d4,5bc fb35=5d5,5bc
   fb36=5d6,5bc fb38=5d8,5bc fb39=5d9,5bc fb3a=5da,5bc fb3b=5db,5bc fb3c=5dc,5bc fb3e=5de,5bc
   fb40=5e0,5bc fb41=5e1,5bc fb43=5e3,5bc fb44=5e4,5bc fb46=5e6,5bc fb47=5e7,5bc fb48=5e8,5bc
   fb49=5e9,5bc fb4a=5ea,5bc fb4b=5d5,5b9 fb4c=5d1,5bf fb4d=5db,5bf fb4e=5e4,5bf fb4f=5d0,5dc"

def toPlain (s : String) : String :=
  if s.toList.all (·.toNat < 128) then s
  else String.ofList (s.toList.flatMap fun c => if c.toNat < 128 then [c] else plainForms.apply c)

end Colloquy.Text
